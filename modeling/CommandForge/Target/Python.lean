import CommandForge.Target.Basic
import CommandForge.Target.Support.Python
/-!
# Python

A command becomes a dataclass with one annotated, defaulted attribute per field. The command's
documentation is the class docstring, a field's stands in comments above it.
-/

namespace CommandForge.Target

namespace Python

/-- Keywords and the members of the base class. -/
def reserved : List String := [
  "and", "as", "assert", "async", "await", "break", "class", "continue", "def", "del", "elif",
  "else", "except", "finally", "for", "from", "global", "if", "import", "in", "is", "lambda",
  "nonlocal", "not", "or", "pass", "raise", "return", "try", "while", "with", "yield",
  "command_name", "to_dict", "to_json", "from_json"]

/-- Names that a generated class would hide in its own module. -/
def reservedTypes : List String := [
  "None", "True", "False", "Command", "DecodeError", "dataclass", "ClassVar", "Optional"]

/-- The type of an attribute without its optionality. -/
def scalarType : Scalar → String
  | .string => "str"
  | .integer => "int"
  | .boolean => "bool"

/-- The annotation of an attribute. -/
def typeName (shape : Shape) : String :=
  if shape.optional then "Optional[" ++ scalarType shape.scalar ++ "]" else scalarType shape.scalar

/-- The default of an attribute. -/
def defaultValue (shape : Shape) : String :=
  if shape.optional then "None"
  else
    match shape.scalar with
    | .string => "\"\""
    | .integer => "0"
    | .boolean => "False"

/-- A documentation line inside a docstring: backslashes are doubled and three quotes in a row are
escaped one by one. -/
def docstringText (line : List Char) : List Char :=
  Text.replaceAll '"' ['"', '"'] ['\\', '"', '\\', '"', '\\', '"']
    (Text.replaceAll '\\' [] ['\\', '\\'] line)

/-- The docstring of a class and the blank line behind it. -/
def docstring (docs : Option String) : List String :=
  match docLines docs with
  | [] => []
  | lines =>
    ["    \"\"\""] ++ lines.map (fun line => "    " ++ String.ofList (docstringText line))
      ++ ["    \"\"\"", ""]

/-- The comments above an attribute. -/
def comments (docs : Option String) : List String :=
  (docLines docs).map fun line => "    # " ++ String.ofList line

/-- One attribute with its comments. -/
def attributeLines (m : Member) : List String :=
  comments m.field.docs
    ++ ["    " ++ m.name ++ ": " ++ typeName m.shape ++ " = " ++ defaultValue m.shape]

/-- The names imported for annotations. -/
def typingImport (m : CommandModel) : String :=
  if m.hasOptionalFields then "from typing import ClassVar, Optional"
  else "from typing import ClassVar"

/-- The lines of a module. -/
def render (m : CommandModel) (members : List Member) : List String :=
  ["# " ++ generatedNotice,
    "from dataclasses import dataclass",
    typingImport m,
    "",
    "from .base_command import Command",
    "",
    "",
    "@dataclass",
    "class " ++ m.typeName ++ "(Command):"]
    ++ docstring m.docs
    ++ ["    COMMAND_NAME: ClassVar[str] = \"" ++ m.commandName ++ "\""]
    ++ (if members.isEmpty then [] else [""])
    ++ members.flatMap attributeLines

end Python

/-- Python dataclasses. -/
def python : Target where
  language := "python"
  reservedTypes := Python.reserved ++ Python.reservedTypes
  memberName := id
  reservedMembers := Python.reserved
  fileName := fun m => m.commandName ++ ".py"
  render := Python.render
  supportFiles := [
    ⟨"__init__.py", sourceText ["# " ++ generatedNotice]⟩,
    ⟨"base_command.py", sourceText Support.pythonBase⟩]

end CommandForge.Target
