import CommandForge.Target.Basic
import CommandForge.Target.Support.Cpp
/-!
# C++

A command becomes a header with one class: a data member per field, and the two functions that
write and read them by wire name. The first line of a documentation is its brief.
-/

namespace CommandForge.Target

namespace Cpp

/-- Keywords, the members of the base class, and names that the generated bodies use. -/
def reserved : List String := [
  "alignas", "alignof", "and", "and_eq", "asm", "auto", "bitand", "bitor", "bool", "break",
  "case", "catch", "char", "char8_t", "char16_t", "char32_t", "class", "compl", "concept",
  "const", "consteval", "constexpr", "constinit", "const_cast", "continue", "co_await",
  "co_return", "co_yield", "decltype", "default", "delete", "do", "double", "dynamic_cast",
  "else", "enum", "explicit", "export", "extern", "false", "float", "for", "friend", "goto",
  "if", "inline", "int", "long", "mutable", "namespace", "new", "noexcept", "not", "not_eq",
  "nullptr", "operator", "or", "or_eq", "private", "protected", "public", "register",
  "reinterpret_cast", "requires", "return", "short", "signed", "sizeof", "static",
  "static_assert", "static_cast", "struct", "switch", "template", "this", "thread_local",
  "throw", "true", "try", "typedef", "typeid", "typename", "union", "unsigned", "using",
  "virtual", "void", "volatile", "wchar_t", "while", "xor", "xor_eq", "command_name", "to_json",
  "to_json_string", "from_json", "parse_object", "write_field", "read_field", "json", "std",
  "nlohmann"]

/-- Names of the base file. -/
def reservedTypes : List String := ["Command", "DecodeError"]

/-- The type of a data member without its optionality. -/
def scalarType : Scalar → String
  | .string => "std::string"
  | .integer => "std::int64_t"
  | .boolean => "bool"

/-- The type of a data member. -/
def typeName (shape : Shape) : String :=
  if shape.optional then "std::optional<" ++ scalarType shape.scalar ++ ">"
  else scalarType shape.scalar

/-- The value a data member starts with. -/
def initializer (shape : Shape) : String :=
  if shape.optional then "\x7b\x7d"
  else
    match shape.scalar with
    | .string => "\x7b\x7d"
    | .integer => "\x7b0\x7d"
    | .boolean => "\x7bfalse\x7d"

/-- The block comment above a declaration. -/
def brief (indent : String) (docs : Option String) : List String :=
  match docLines docs with
  | [] => []
  | first :: rest =>
    [indent ++ "/**", indent ++ " * @brief " ++ String.ofList (blockCommentText first)]
      ++ rest.map (fun line => marked (indent ++ " *") (blockCommentText line))
      ++ [indent ++ " */"]

/-- One data member with its comment. -/
def dataMember (m : Member) : List String :=
  brief "        " m.field.docs
    ++ ["        " ++ typeName m.shape ++ " " ++ m.name ++ initializer m.shape ++ ";"]

/-- The body of the function that writes the members. -/
def writeBody (members : List Member) : List String :=
  if members.isEmpty then ["            return Command::to_json();"]
  else
    ["            nlohmann::json json = Command::to_json();"]
      ++ members.map (fun m =>
        "            write_field(json, \"" ++ m.name ++ "\", " ++ m.name ++ ");")
      ++ ["            return json;"]

/-- The body of the function that reads the members. -/
def readBody (typeName : String) (members : List Member) : List String :=
  if members.isEmpty then
    ["            parse_object(text);", "            return " ++ typeName ++ "();"]
  else
    ["            const nlohmann::json json = parse_object(text);",
      "            " ++ typeName ++ " command;"]
      ++ members.map (fun m =>
        "            read_field(json, \"" ++ m.name ++ "\", command." ++ m.name ++ ");")
      ++ ["            return command;"]

/-- The lines of a header. -/
def render (ns : String) (m : CommandModel) (members : List Member) : List String :=
  ["// " ++ generatedNotice,
    "#pragma once",
    "",
    "#include <cstdint>",
    "#include <optional>",
    "#include <string>",
    "",
    "#include \"base_command.hpp\"",
    "",
    "namespace " ++ ns,
    "\x7b"]
    ++ brief "    " m.docs
    ++ ["    class " ++ m.typeName ++ " : public Command",
      "    \x7b",
      "    public:",
      "        static constexpr const char *kCommandName = \"" ++ m.commandName ++ "\";",
      "",
      "        " ++ m.typeName ++ "() : Command(kCommandName) \x7b\x7d"]
    ++ (if members.isEmpty then [] else [""])
    ++ members.flatMap dataMember
    ++ ["",
      "        nlohmann::json to_json() const override",
      "        \x7b"]
    ++ writeBody members
    ++ ["        \x7d",
      "",
      "        static " ++ m.typeName ++ " from_json(const std::string &text)",
      "        \x7b"]
    ++ readBody m.typeName members
    ++ ["        \x7d",
      "    \x7d;",
      "\x7d"]

/-- A dotted namespace as nested namespaces. -/
def nested (ns : String) : String := String.ofList (Text.replaceAll '.' [] "::".toList ns.toList)

/-- The base file in the namespace `ns`. -/
def baseFile (ns : String) : SupportFile :=
  ⟨"base_command.hpp", String.ofList (Text.replaceFirst "namespace GeneratedCommands".toList
    ("namespace " ++ ns).toList (sourceText Support.cppBase).toList)⟩

end Cpp

/-- C++ classes in the dotted namespace `ns`. -/
def cpp (ns : String) : Target where
  language := "cplusplus"
  reservedTypes := Cpp.reserved ++ Cpp.reservedTypes
  memberName := id
  reservedMembers := Cpp.reserved
  fileName := fun m => m.commandName ++ ".hpp"
  render := Cpp.render (Cpp.nested ns)
  supportFiles := [Cpp.baseFile (Cpp.nested ns)]

end CommandForge.Target
