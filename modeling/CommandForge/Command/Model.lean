import CommandForge.Command.Definition
import CommandForge.Command.EmitError
import CommandForge.Identifier.Words
/-!
# Command models

A model is a definition with its names resolved: the command's normalized name and, per field, the
name under which it travels. Everything that is emitted takes its names from here.
-/

namespace CommandForge

/-- A field with its normalized name. -/
structure FieldModel where
  sourceName : String
  wireName : String
  type : FieldType
  docs : Option String
  deriving DecidableEq, Repr

/-- A command with its normalized name and resolved fields, in schema order. -/
structure CommandModel where
  typeName : String
  commandName : String
  docs : Option String
  fields : List FieldModel
  deriving DecidableEq, Repr

/-- The types that every language can express. -/
inductive Scalar where
  | string
  | integer
  | boolean
  deriving DecidableEq, Repr

/-- A scalar, possibly optional. -/
structure Shape where
  scalar : Scalar
  optional : Bool
  deriving DecidableEq, Repr

/-- The scalar that a type is. -/
def FieldType.scalar? : FieldType → Option Scalar
  | .string => some .string
  | .integer => some .integer
  | .boolean => some .boolean
  | .optional _ | .custom _ => none

/-- The shape of a type: a scalar, or one optional around a scalar. -/
def FieldType.shape? : FieldType → Option Shape
  | .optional inner => inner.scalar?.map fun scalar => ⟨scalar, true⟩
  | ty => ty.scalar?.map fun scalar => ⟨scalar, false⟩

namespace FieldModel

/-- The field's shape; `language` is named in the complaint. -/
def shape (language : String) (f : FieldModel) : Except EmitError Shape :=
  match f.type.shape? with
  | some shape => .ok shape
  | none => .error (.unsupportedType f.sourceName f.type.display language)

/-- Resolves one field behind the resolved fields `before`. -/
def resolve (before : List FieldModel) (f : FieldDef) : Except EmitError FieldModel :=
  match Identifier.normalize f.name with
  | .error e => .error (.invalidIdentifier e)
  | .ok wireName =>
    if wireName = commandNameKey then .error (.commandNameCollision f.name)
    else
      match before.find? (·.wireName = wireName) with
      | some first => .error (.duplicateMember first.sourceName f.name wireName)
      | none => .ok ⟨f.name, wireName, f.type, f.docs⟩

/-- Resolves fields in order behind the resolved fields `before`; the first complaint ends it. -/
def resolveAll (before : List FieldModel) : List FieldDef → Except EmitError (List FieldModel)
  | [] => .ok before
  | f :: fs =>
    match resolve before f with
    | .error e => .error e
    | .ok field => resolveAll (before ++ [field]) fs

end FieldModel

namespace CommandModel

/-- Resolves the names of a definition. Types are not looked at. -/
def resolve (d : CommandDef) : Except EmitError CommandModel :=
  match Identifier.normalize d.name with
  | .error e => .error (.invalidIdentifier e)
  | .ok commandName =>
    match FieldModel.resolveAll [] d.fields with
    | .error e => .error e
    | .ok fields => .ok ⟨d.name, commandName, d.docs, fields⟩

/-- The normalized field names, in schema order. -/
def members (m : CommandModel) : List String := m.fields.map (·.wireName)

/-- Some field has an optional type. -/
def hasOptionalFields (m : CommandModel) : Bool := m.fields.any (·.type.isOptional)

end CommandModel

end CommandForge
