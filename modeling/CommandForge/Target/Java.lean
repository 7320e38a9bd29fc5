import CommandForge.Target.Basic
import CommandForge.Target.Support.Java
/-!
# Java

A command becomes a class with a private field, a getter and a setter per field; the annotation
above a field holds its wire name.
-/

namespace CommandForge.Target

namespace Java

/-- Keywords. -/
def reserved : List String := [
  "abstract", "assert", "boolean", "break", "byte", "case", "catch", "char", "class", "const",
  "continue", "default", "do", "double", "else", "enum", "extends", "final", "finally", "float",
  "for", "goto", "if", "implements", "import", "instanceof", "int", "interface", "long",
  "native", "new", "package", "private", "protected", "public", "return", "short", "static",
  "strictfp", "super", "switch", "synchronized", "this", "throw", "throws", "transient", "try",
  "void", "volatile", "while", "true", "false", "null", "var", "record", "yield"]

/-- Names of the base file and the types that generated fields use. -/
def reservedTypes : List String := [
  "Command", "DecodeException", "SerializedName", "String", "Long", "Boolean", "Object"]

/-- The type of a field. Optional scalars are boxed, so that `null` means absent. -/
def typeName : Shape → String
  | ⟨.string, _⟩ => "String"
  | ⟨.integer, false⟩ => "long"
  | ⟨.integer, true⟩ => "Long"
  | ⟨.boolean, false⟩ => "boolean"
  | ⟨.boolean, true⟩ => "Boolean"

/-- The value a field starts with. -/
def defaultValue (shape : Shape) : String :=
  if shape.optional then "null"
  else
    match shape.scalar with
    | .string => "\"\""
    | .integer => "0L"
    | .boolean => "false"

/-- A documentation line without what is acted upon inside a comment: a backslash may start an
escape, and a star with a slash ends the comment. -/
def javadocText (line : List Char) : List Char :=
  Text.replaceAll '*' ['/'] "*&#47;".toList (Text.replaceAll '\\' [] "&#92;".toList line)

/-- The documentation comment above a declaration. -/
def javadoc (indent : String) (docs : Option String) : List String :=
  match docLines docs with
  | [] => []
  | lines =>
    [indent ++ "/**"] ++ lines.map (fun line => marked (indent ++ " *") (javadocText line))
      ++ [indent ++ " */"]

/-- One field behind a blank line. -/
def fieldLines (m : Member) : List String :=
  [""] ++ javadoc "    " m.field.docs
    ++ ["    @SerializedName(\"" ++ m.field.wireName ++ "\")",
      "    private " ++ typeName m.shape ++ " " ++ m.name ++ " = " ++ defaultValue m.shape ++ ";"]

/-- The part of an accessor's name that names the field. -/
def accessorName (m : Member) : String := Identifier.pascal m.name

/-- The getter and the setter of a field, each behind a blank line. -/
def accessors (m : Member) : List String :=
  ["",
    "    public " ++ typeName m.shape ++ " get" ++ accessorName m ++ "() \x7b",
    "        return " ++ m.name ++ ";",
    "    \x7d",
    "",
    "    public void set" ++ accessorName m ++ "(" ++ typeName m.shape ++ " " ++ m.name ++ ") \x7b",
    "        this." ++ m.name ++ " = " ++ m.name ++ ";",
    "    \x7d"]

/-- The lines of a file. -/
def render (package : String) (m : CommandModel) (members : List Member) : List String :=
  ["// " ++ generatedNotice,
    "package " ++ package ++ ";",
    ""]
    ++ (if members.isEmpty then []
      else ["import com.google.gson.annotations.SerializedName;", ""])
    ++ javadoc "" m.docs
    ++ ["public class " ++ m.typeName ++ " extends Command \x7b",
      "    public static final String COMMAND_NAME = " ++ stringLiteral m.commandName ++ ";"]
    ++ members.flatMap fieldLines
    ++ ["",
      "    public " ++ m.typeName ++ "() \x7b",
      "        super(COMMAND_NAME);",
      "    \x7d",
      "",
      "    public static " ++ m.typeName ++ " fromJson(String json) \x7b",
      "        return decode(json, " ++ m.typeName ++ ".class);",
      "    \x7d"]
    ++ members.flatMap accessors
    ++ ["\x7d"]

/-- The base file in the package. -/
def baseFile (package : String) : SupportFile :=
  ⟨"Command.java", String.ofList (Text.replaceFirst "package generated.commands;".toList
    ("package " ++ package ++ ";").toList (sourceText Support.javaBase).toList)⟩

end Java

/-- Java classes in the package. -/
def java (package : String) : Target where
  language := "java"
  reservedTypes := Java.reserved ++ Java.reservedTypes
  memberName := Identifier.camel
  reservedMembers := Java.reserved
  fileName := fun m => m.typeName ++ ".java"
  render := Java.render package
  supportFiles := [Java.baseFile package]

end CommandForge.Target
