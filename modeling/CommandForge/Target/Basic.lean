import CommandForge.Command.Model
import CommandForge.Text.Canonical
import CommandForge.Text.Replace
/-!
# Target languages

A target language says how a resolved command becomes source text: which names it keeps for
itself, how members are named, and the lines of the file. `Target.emit` does the checks that all
languages share, in one order, and only then renders; so a command is emitted whole or not at all.
-/

namespace CommandForge

/-- A file that generated sources of a language depend on. -/
structure SupportFile where
  fileName : String
  content : String
  deriving DecidableEq, Repr

/-- A field that a language accepts: its shape and the name of its member. -/
structure Member where
  field : FieldModel
  shape : Shape
  name : String
  deriving DecidableEq, Repr

/-- How commands are written in one language. -/
structure Target where
  language : String
  /-- Type names that the language or its support files keep. -/
  reservedTypes : List String
  /-- The member's name for a wire name. -/
  memberName : String → String
  /-- Member names that the language or the base class keeps. -/
  reservedMembers : List String
  /-- A member must not be named like its type. -/
  typeNameReserved : Bool := false
  fileName : CommandModel → String
  /-- The lines of the file, in order, without their line feeds. -/
  render : CommandModel → List Member → List String
  supportFiles : List SupportFile := []

/-- Renders models for one language. -/
structure Emitter where
  language : String
  fileName : CommandModel → String
  emit : CommandModel → Except EmitError String
  supportFiles : List SupportFile

/-- The first line of every generated file, behind the language's comment mark. -/
def generatedNotice : String := "This file is auto-generated. Do not edit manually."

/-- The text of a file, each line closed by a line feed. -/
def sourceText (lines : List String) : String := String.join (lines.map (· ++ "\n"))

/-! ## Documentation -/

/-- A documentation text as trimmed lines, without blank lines at either end. -/
def docLines (docs : Option String) : List (List Char) :=
  match docs with
  | none => []
  | some text =>
    Text.dropEmptyEnds ((Text.lines text.toList).map Text.trim)

/-- A documentation line that cannot close a block comment. -/
def blockCommentText (line : List Char) : List Char :=
  Text.replaceAll '*' ['/'] ['*', ' ', '/'] line

/-- `mark` and, behind a space, the text; the mark alone when there is no text. -/
def marked (mark : String) (text : List Char) : String :=
  if text.isEmpty then mark else mark ++ " " ++ String.ofList text

/-! ## String literals -/

/-- A character inside a string literal between double quotes. -/
def literalChar (c : Char) : List Char :=
  match c with
  | '"' => ['\\', '"']
  | '\\' => ['\\', '\\']
  | c => [c]

/-- The text as a string literal of the languages that write them as C does. -/
def stringLiteral (text : String) : String :=
  String.ofList ('"' :: text.toList.flatMap literalChar ++ ['"'])

namespace Target

/-- The member for a field. -/
def member (t : Target) (typeName : String) (f : FieldModel) : Except EmitError Member :=
  match f.shape t.language with
  | .error e => .error e
  | .ok shape =>
    let name := t.memberName f.wireName
    if t.reservedMembers.contains name || (t.typeNameReserved && name == typeName) then
      .error (.reservedIdentifier f.sourceName name t.language)
    else .ok ⟨f, shape, name⟩

/-- The members for fields in order; the first complaint ends it. -/
def memberList (t : Target) (typeName : String) : List FieldModel → Except EmitError (List Member)
  | [] => .ok []
  | f :: fs =>
    match t.member typeName f with
    | .error e => .error e
    | .ok m =>
      match t.memberList typeName fs with
      | .error e => .error e
      | .ok ms => .ok (m :: ms)

/-- The source text for a command. -/
def emit (t : Target) (m : CommandModel) : Except EmitError String :=
  if t.reservedTypes.contains m.typeName then .error (.reservedTypeName m.typeName t.language)
  else
    match t.memberList m.typeName m.fields with
    | .error e => .error e
    | .ok members => .ok (sourceText (t.render m members))

/-- The target as an emitter. -/
def emitter (t : Target) : Emitter := ⟨t.language, t.fileName, t.emit, t.supportFiles⟩

end Target

end CommandForge
