import CommandForge.Target.Basic
import CommandForge.Target.Support.CSharp
/-!
# C#

A command becomes a class with one property per field; the attribute above a property holds its
wire name. Documentation stands in summary comments, with the signs of XML escaped.
-/

namespace CommandForge.Target

namespace CSharp

/-- Members of the base class and of `object` that a property would hide. -/
def reserved : List String := [
  "CommandName", "CommandNameKey", "ToJson", "FromJson", "Equals", "GetHashCode", "GetType",
  "ToString", "MemberwiseClone"]

/-- Keywords, and the types and namespace that generated classes refer to. -/
def reservedTypes : List String := [
  "abstract", "as", "base", "bool", "break", "byte", "case", "catch", "char", "checked", "class",
  "const", "continue", "decimal", "default", "delegate", "do", "double", "else", "enum", "event",
  "explicit", "extern", "false", "finally", "fixed", "float", "for", "foreach", "goto", "if",
  "implicit", "in", "int", "interface", "internal", "is", "lock", "long", "namespace", "new",
  "null", "object", "operator", "out", "override", "params", "private", "protected", "public",
  "readonly", "ref", "return", "sbyte", "sealed", "short", "sizeof", "stackalloc", "static",
  "string", "struct", "switch", "this", "throw", "true", "try", "typeof", "uint", "ulong",
  "unchecked", "unsafe", "ushort", "using", "virtual", "void", "volatile", "while", "Command",
  "DecodeException", "System"]

/-- The type of a property. -/
def typeName : Shape → String
  | ⟨.string, false⟩ => "string"
  | ⟨.string, true⟩ => "string?"
  | ⟨.integer, false⟩ => "long"
  | ⟨.integer, true⟩ => "long?"
  | ⟨.boolean, false⟩ => "bool"
  | ⟨.boolean, true⟩ => "bool?"

/-- What stands behind a property. Value types and nullables start out right by themselves. -/
def initializer : Shape → String
  | ⟨.string, false⟩ => " = string.Empty;"
  | _ => ""

/-- A text with the signs of XML escaped. -/
def xmlText (line : List Char) : List Char :=
  Text.replaceAll '>' [] "&gt;".toList
    (Text.replaceAll '<' [] "&lt;".toList (Text.replaceAll '&' [] "&amp;".toList line))

/-- The summary comment above a declaration. -/
def summary (indent : String) (docs : Option String) : List String :=
  match docLines docs with
  | [] => []
  | lines =>
    [indent ++ "/// <summary>"]
      ++ lines.map (fun line => indent ++ "/// " ++ String.ofList (xmlText line))
      ++ [indent ++ "/// </summary>"]

/-- One property behind a blank line. -/
def property (m : Member) : List String :=
  [""] ++ summary "        " m.field.docs
    ++ ["        [JsonPropertyName(\"" ++ m.field.wireName ++ "\")]",
      "        public " ++ typeName m.shape ++ " " ++ m.name ++ " \x7b get; set; \x7d"
        ++ initializer m.shape]

/-- The lines of a file. -/
def render (ns : String) (m : CommandModel) (members : List Member) : List String :=
  ["// " ++ generatedNotice,
    "#nullable enable",
    ""]
    ++ (if members.isEmpty then [] else ["using System.Text.Json.Serialization;", ""])
    ++ ["namespace " ++ ns, "\x7b"]
    ++ summary "    " m.docs
    ++ ["    public class " ++ m.typeName ++ " : Command",
      "    \x7b",
      "        public " ++ m.typeName ++ "() : base(\"" ++ m.commandName ++ "\")",
      "        \x7b",
      "        \x7d"]
    ++ members.flatMap property
    ++ ["    \x7d", "\x7d"]

/-- The base file in the namespace `ns`. -/
def baseFile (ns : String) : SupportFile :=
  ⟨"BaseCommand.cs", String.ofList (Text.replaceFirst "namespace GeneratedCommands".toList
    ("namespace " ++ ns).toList (sourceText Support.cSharpBase).toList)⟩

end CSharp

/-- C# classes in the namespace `ns`. A property must not be named like its class. -/
def cSharp (ns : String) : Target where
  language := "csharp"
  reservedTypes := CSharp.reservedTypes
  memberName := Identifier.pascal
  reservedMembers := CSharp.reserved
  typeNameReserved := true
  fileName := fun m => m.typeName ++ ".cs"
  render := CSharp.render ns
  supportFiles := [CSharp.baseFile ns]

end CommandForge.Target
