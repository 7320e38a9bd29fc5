import CommandForge.Command.EmitError
import CommandForge.Json.Reader
import CommandForge.Wire.Fault
/-!
# The wire format of commands

A command travels as a JSON object: its name first, then every field that is not absent. Decoding
matches keys in any letter case. A key that is lowercase already wins over other spellings of it,
null counts as absent, and the name is not read back: it follows from the type.
-/

namespace CommandForge

/-- A type of commands: its name, and how its values are written to and read from plain JSON. -/
structure CommandType (α : Type) where
  commandName : String
  /-- The plain form of a value, with null for what is absent. -/
  plain : α → Except JsonFault Json
  /-- The value with the given members, whose keys are distinct. -/
  ofMembers : List (String × Json) → Except JsonFault α

/-- The layouts of an encoded command. -/
inductive Layout where
  | compact
  | pretty
  deriving DecidableEq, Repr

/-- The text of a value in a layout. -/
def Layout.text : Layout → Json → String
  | .compact => Json.compact
  | .pretty => Json.pretty

namespace Wire

/-! ## Keys -/

/-- Gives `key` the value `v` unless it has one already. -/
def putAbsent (key : String) (v : Json) (members : List (String × Json)) : List (String × Json) :=
  if (Json.member? key members).isSome then members else Json.put key v members

/-- Takes one member over under its lowercase key. -/
def foldMember (folded : List (String × Json)) (m : String × Json) : List (String × Json) :=
  let small := Text.lowercase m.1
  if small = commandNameKey ∨ m.2.isNull then folded
  else if small = m.1 then Json.put small m.2 folded
  else putAbsent small m.2 folded

/-- The members of an object under lowercase keys, without nulls and without the command name. -/
def foldKeys (members : List (String × Json)) : List (String × Json) :=
  members.foldl foldMember []

/-! ## Encoding and decoding -/

variable {α : Type}

/-- The members of an encoded command. -/
def encodeMembers (t : CommandType α) (x : α) : Except CommandError (List (String × Json)) :=
  match t.plain x with
  | .error fault => .error (.ofJson fault)
  | .ok (.object fields) =>
    .ok ((commandNameKey, .string t.commandName)
      :: fields.filter fun m => !m.2.isNull && m.1 != commandNameKey)
  | .ok _ => .error (.encode (.notObject t.commandName))

/-- The text of an encoded command. -/
def encode (layout : Layout) (t : CommandType α) (x : α) : Except CommandError String :=
  match encodeMembers t x with
  | .error e => .error e
  | .ok members => .ok (layout.text (.object members))

/-- The command that a value holds. -/
def decodeValue (t : CommandType α) : Json → Except CommandError α
  | .object members =>
    match t.ofMembers (foldKeys members) with
    | .error fault => .error (.decode (.json fault))
    | .ok x => .ok x
  | found => .error (.decode (.notObject t.commandName found))

/-- The command that a text holds. -/
def decode (t : CommandType α) (text : String) : Except CommandError α :=
  match Json.read? text with
  | none => .error (.ofJson .malformed)
  | some value => decodeValue t value

end Wire

end CommandForge
