import CommandForge.Command.FieldType
/-!
# Command definitions

What a schema says about a command, in the names of the schema.
-/

namespace CommandForge

/-- A field as the schema declares it. -/
structure FieldDef where
  name : String
  type : FieldType
  docs : Option String := none
  deriving DecidableEq, Repr

/-- A command as the schema declares it, with its fields in declaration order. -/
structure CommandDef where
  name : String
  docs : Option String := none
  fields : List FieldDef := []
  deriving DecidableEq, Repr

end CommandForge
