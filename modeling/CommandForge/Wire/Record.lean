import CommandForge.Wire.Codec
/-!
# Record types

Command types given by a list of fields. A record is a list of slots, one for each field in order;
a slot holds a value of the field's kind or, for an optional field, nothing.
-/

namespace CommandForge

/-- A range of whole numbers with its name. -/
structure IntRange where
  label : String
  least : Int
  greatest : Int
  deriving DecidableEq, Repr

/-- Whole numbers of 64 bits with a sign. -/
def IntRange.i64 : IntRange := ⟨"i64", -Int.pow 2 63, Int.pow 2 63 - 1⟩

/-- The values a field may have. -/
inductive FieldKind where
  | text
  | integer (range : IntRange)
  | flag
  /-- A list of texts. -/
  | texts
  /-- Any JSON value. -/
  | any
  deriving DecidableEq, Repr

/-- A field of a record type. -/
structure RecordField where
  key : String
  kind : FieldKind
  optional : Bool := false
  /-- An absent field is left out of the plain form. -/
  omitAbsent : Bool := false
  deriving DecidableEq, Repr

/-- The value of a field. -/
inductive Slot where
  | text (s : String)
  | integer (n : Int)
  | flag (b : Bool)
  | texts (items : List String)
  | any (v : Json)
  | absent

/-- A record type. With defaults, a field that is not given has the default of its kind. -/
structure RecordType where
  commandName : String
  fields : List RecordField
  hasDefaults : Bool := true

namespace FieldKind

/-- The value that a field has by default. -/
def default : FieldKind → Slot
  | .text => .text ""
  | .integer _ => .integer 0
  | .flag => .flag false
  | .texts => .texts []
  | .any => .any .null

/-- The texts of an array's items; the first that is none ends it. -/
def readTexts : List Json → Except JsonFault (List String)
  | [] => .ok []
  | .string s :: rest =>
    match readTexts rest with
    | .error e => .error e
    | .ok items => .ok (s :: items)
  | found :: _ => .error (.wrongType found "a string")

/-- The value of a field from its plain form. -/
def read : FieldKind → Json → Except JsonFault Slot
  | .text, .string s => .ok (.text s)
  | .text, found => .error (.wrongType found "a string")
  | .integer range, .number (.int n) =>
    if range.least ≤ n ∧ n ≤ range.greatest then .ok (.integer n)
    else .error (.outOfRange n range.label)
  | .integer range, found => .error (.wrongType found range.label)
  | .flag, .bool b => .ok (.flag b)
  | .flag, found => .error (.wrongType found "a boolean")
  | .texts, .array items =>
    match readTexts items with
    | .error e => .error e
    | .ok items => .ok (.texts items)
  | .texts, found => .error (.wrongType found "a sequence")
  | .any, v => .ok (.any v)

end FieldKind

/-- The plain form of a slot. -/
def Slot.plain : Slot → Json
  | .text s => .string s
  | .integer n => .number (.int n)
  | .flag b => .bool b
  | .texts items => .array (items.map .string)
  | .any v => v
  | .absent => .null

namespace RecordField

/-- The slot of a field from its plain form. -/
def read (f : RecordField) (v : Json) : Except JsonFault Slot :=
  if f.optional && v.isNull then .ok .absent else f.kind.read v

/-- The slot of a field that is not given. -/
def missing (f : RecordField) (hasDefaults : Bool) : Except JsonFault Slot :=
  if f.optional then .ok .absent
  else if hasDefaults then .ok f.kind.default
  else .error (.missingField f.key)

/-- The slot of a field among those that were given. -/
def pick (f : RecordField) (hasDefaults : Bool) (given : List (String × Slot)) :
    Except JsonFault Slot :=
  match given.lookup f.key with
  | some slot => .ok slot
  | none => f.missing hasDefaults

/-- The plain member of a field; none when it is left out. -/
def member? (f : RecordField) (slot : Slot) : Option (String × Json) :=
  let v := slot.plain
  if f.omitAbsent && v.isNull then none else some (f.key, v)

end RecordField

namespace RecordType

/-- Reads the members that name a field, in their order; the first fault ends it. -/
def readMembers (fields : List RecordField) :
    List (String × Json) → Except JsonFault (List (String × Slot))
  | [] => .ok []
  | (key, v) :: rest =>
    match fields.find? (·.key = key) with
    | none => readMembers fields rest
    | some f =>
      match f.read v with
      | .error e => .error e
      | .ok slot =>
        match readMembers fields rest with
        | .error e => .error e
        | .ok slots => .ok ((key, slot) :: slots)

/-- The slots of all fields in order, from those that were given. -/
def fill (hasDefaults : Bool) (given : List (String × Slot)) :
    List RecordField → Except JsonFault (List Slot)
  | [] => .ok []
  | f :: fs =>
    match f.pick hasDefaults given with
    | .error e => .error e
    | .ok slot =>
      match fill hasDefaults given fs with
      | .error e => .error e
      | .ok slots => .ok (slot :: slots)

/-- The record with the given members. -/
def ofMembers (t : RecordType) (members : List (String × Json)) : Except JsonFault (List Slot) :=
  match readMembers t.fields members with
  | .error e => .error e
  | .ok given => fill t.hasDefaults given t.fields

/-- The plain members of a record. -/
def plainMembers (t : RecordType) (slots : List Slot) : List (String × Json) :=
  (t.fields.zip slots).filterMap fun (f, slot) => f.member? slot

/-- The record type as a type of commands. -/
def commandType (t : RecordType) : CommandType (List Slot) where
  commandName := t.commandName
  plain := fun slots => .ok (.object (t.plainMembers slots))
  ofMembers := t.ofMembers

end RecordType

end CommandForge
