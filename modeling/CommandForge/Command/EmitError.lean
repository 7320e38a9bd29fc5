import CommandForge.Identifier.Basic
/-!
# Why a command cannot be emitted

The causes, each with what a reader needs to find it in the schema, and their wording in one
place.
-/

namespace CommandForge

/-- The key under which a command's name travels with its fields. -/
def commandNameKey : String := "command_name"

/-- Why one command has no artifact in one language. -/
inductive EmitError where
  /-- A command or field name is no identifier. -/
  | invalidIdentifier (e : InvalidIdentifier)
  /-- The language has no type for the field. -/
  | unsupportedType (field type language : String)
  /-- The field's member would have a name that the language or its base class keeps. -/
  | reservedIdentifier (field member language : String)
  /-- Two fields have the same normalized name. -/
  | duplicateMember (first second wireName : String)
  /-- A field's normalized name is the key of the command name. -/
  | commandNameCollision (field : String)
  /-- The command's name is one that the language or its base file keeps. -/
  | reservedTypeName (typeName language : String)
  /-- Another command has the same normalized name. -/
  | duplicateCommandName (commandName other : String)
  /-- Another command, or a support file, is written to the same path. -/
  | outputCollision (path other : String)
  deriving DecidableEq, Repr

open Text (quoted) in
/-- The cause in words. -/
def EmitError.message : EmitError → String
  | .invalidIdentifier e => e.message
  | .unsupportedType field type language =>
    "field " ++ quoted field ++ " has type " ++ type ++ ", which has no " ++ language ++ " mapping"
  | .reservedIdentifier field member language =>
    "field " ++ quoted field ++ " maps to " ++ quoted member ++ ", a reserved identifier in "
      ++ language
  | .duplicateMember first second wireName =>
    "fields " ++ quoted first ++ " and " ++ quoted second ++ " both normalize to "
      ++ quoted wireName
  | .commandNameCollision field =>
    "field " ++ quoted field ++ " collides with the " ++ quoted commandNameKey ++ " wire key"
  | .reservedTypeName typeName language =>
    "type name " ++ quoted typeName ++ " is reserved in " ++ language
  | .duplicateCommandName commandName other =>
    "command name " ++ quoted commandName ++ " is also produced by " ++ quoted other
  | .outputCollision path other => "output " ++ path ++ " is also written by " ++ other

end CommandForge
