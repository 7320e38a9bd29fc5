import CommandForge.Target.Basic
/-!
# Rust

A command becomes a struct that serde can write and read, and the implementation of the command
trait. A field named like a keyword is written as a raw identifier, which leaves its wire name as
it is. There is no support file: the trait lives in a crate.
-/

namespace CommandForge.Target

namespace Rust

/-- Keywords that a raw identifier can hold. -/
def keywords : List String := [
  "abstract", "as", "async", "await", "become", "box", "break", "const", "continue", "do", "dyn",
  "else", "enum", "extern", "false", "final", "fn", "for", "gen", "if", "impl", "in", "let",
  "loop", "macro", "match", "mod", "move", "mut", "override", "priv", "pub", "ref", "return",
  "static", "struct", "trait", "true", "try", "type", "typeof", "unsafe", "unsized", "use",
  "virtual", "where", "while", "yield"]

/-- Keywords that no identifier can hold. -/
def unescapable : List String := ["crate", "self", "super"]

/-- Type names that clash with the imports or with the types that generated fields use. -/
def reservedTypes : List String := [
  "Self", "Command", "Serialize", "Deserialize", "Option", "String", "Default"]

/-- The type of a field without its optionality. -/
def scalarType : Scalar → String
  | .string => "String"
  | .integer => "i64"
  | .boolean => "bool"

/-- The type of a field. -/
def typeName (shape : Shape) : String :=
  if shape.optional then "Option<" ++ scalarType shape.scalar ++ ">" else scalarType shape.scalar

/-- The identifier of a field. -/
def fieldIdent (name : String) : String := if keywords.contains name then "r#" ++ name else name

/-- The documentation comments above a declaration. -/
def docComments (indent : String) (docs : Option String) : List String :=
  (docLines docs).map (marked (indent ++ "///"))

/-- One field with its comments and attributes. -/
def fieldLines (m : Member) : List String :=
  docComments "    " m.field.docs
    ++ (if m.shape.optional then
      ["    #[serde(skip_serializing_if = \"Option::is_none\")]"] else [])
    ++ ["    pub " ++ fieldIdent m.name ++ ": " ++ typeName m.shape ++ ","]

/-- The struct itself. -/
def structLines (name : String) (members : List Member) : List String :=
  if members.isEmpty then ["pub struct " ++ name ++ " \x7b\x7d"]
  else ["pub struct " ++ name ++ " \x7b"] ++ members.flatMap fieldLines ++ ["\x7d"]

/-- The lines of a file. -/
def render (runtimeCrate : String) (m : CommandModel) (members : List Member) : List String :=
  ["// " ++ generatedNotice,
    "use " ++ runtimeCrate ++ "::Command;",
    "use serde::\x7bDeserialize, Serialize\x7d;",
    ""]
    ++ docComments "" m.docs
    ++ ["#[derive(Debug, Clone, Default, PartialEq, Eq, Serialize, Deserialize)]",
      "#[serde(default)]"]
    ++ structLines m.typeName members
    ++ ["",
      "impl Command for " ++ m.typeName ++ " \x7b",
      "    const COMMAND_NAME: &'static str = \"" ++ m.commandName ++ "\";",
      "\x7d"]

end Rust

/-- Rust structs whose trait comes from `runtimeCrate`. -/
def rust (runtimeCrate : String) : Target where
  language := "rust"
  reservedTypes := Rust.keywords ++ Rust.unescapable ++ Rust.reservedTypes
  memberName := id
  reservedMembers := Rust.unescapable
  fileName := fun m => m.commandName ++ ".rs"
  render := Rust.render runtimeCrate

end CommandForge.Target
