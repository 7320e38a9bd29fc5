import CommandForge.Target.Basic
import CommandForge.Target.Support.JavaScript
/-!
# JavaScript

A command becomes a class of an ES module: a table of its fields and a constructor that sets each
to its initial value.
-/

namespace CommandForge.Target

namespace JavaScript

/-- Property names that break the class; keywords are fine as properties. -/
def reserved : List String := ["constructor", "prototype"]

/-- Reserved words and the names that a generated module binds. -/
def reservedTypes : List String := [
  "arguments", "await", "break", "case", "catch", "class", "const", "continue", "debugger",
  "default", "delete", "do", "else", "enum", "eval", "export", "extends", "false", "finally",
  "for", "function", "if", "implements", "import", "in", "instanceof", "interface", "let", "new",
  "null", "package", "private", "protected", "public", "return", "static", "super", "switch",
  "this", "throw", "true", "try", "typeof", "var", "void", "while", "with", "yield", "Command",
  "DecodeError"]

/-- The type of a field in the table. -/
def typeTag : Scalar → String
  | .string => "string"
  | .integer => "integer"
  | .boolean => "boolean"

/-- The value a property starts with. -/
def initialValue (shape : Shape) : String :=
  if shape.optional then "null"
  else
    match shape.scalar with
    | .string => "\x27\x27"
    | .integer => "0"
    | .boolean => "false"

/-- Whether a field is optional, in the table. -/
def optionalTag (optional : Bool) : String := if optional then "true" else "false"

/-- The block comment above the class. -/
def blockComment (docs : Option String) : List String :=
  match docLines docs with
  | [] => []
  | lines =>
    ["/**"] ++ lines.map (fun line => " * " ++ String.ofList (blockCommentText line)) ++ [" */"]

/-- The entry of a field in the table. -/
def tableEntry (m : Member) : String :=
  "        \x7b name: '" ++ m.name ++ "', type: '" ++ typeTag m.shape.scalar ++ "', optional: "
    ++ optionalTag m.shape.optional ++ " \x7d,"

/-- The table of fields and the blank line behind it. -/
def fieldTable (members : List Member) : List String :=
  if members.isEmpty then ["    static FIELDS = [];", ""]
  else ["    static FIELDS = ["] ++ members.map tableEntry ++ ["    ];", ""]

/-- The comments above a property. -/
def comments (docs : Option String) : List String :=
  (docLines docs).map fun line => "        // " ++ String.ofList line

/-- One property with its comments. -/
def property (m : Member) : List String :=
  comments m.field.docs ++ ["        this." ++ m.name ++ " = " ++ initialValue m.shape ++ ";"]

/-- The lines of a module. -/
def render (m : CommandModel) (members : List Member) : List String :=
  ["// " ++ generatedNotice,
    "import \x7b Command \x7d from './BaseCommand.js';",
    ""]
    ++ blockComment m.docs
    ++ ["export class " ++ m.typeName ++ " extends Command \x7b",
      "    static COMMAND_NAME = '" ++ m.commandName ++ "';",
      ""]
    ++ fieldTable members
    ++ ["    constructor() \x7b", "        super();"]
    ++ (if members.isEmpty then ["        // No fields defined"] else [])
    ++ members.flatMap property
    ++ ["    \x7d", "\x7d"]

end JavaScript

/-- JavaScript classes. -/
def javaScript : Target where
  language := "javascript"
  reservedTypes := JavaScript.reservedTypes
  memberName := id
  reservedMembers := JavaScript.reserved
  fileName := fun m => m.commandName ++ ".js"
  render := JavaScript.render
  supportFiles := [⟨"BaseCommand.js", sourceText Support.javaScriptBase⟩]

end CommandForge.Target
