import CommandForge.Command.Definition
import CommandForge.Json.Reader
/-!
# Schemas

A schema is a JSON object. Each member is a command: its fields with their types, in declaration
order, and under one key the documentation, first that of the command and then that of the fields
by position.
-/

namespace CommandForge

/-- The key of a command's documentation. -/
def aboutKey : String := "ABOUT"

/-- Why a text is no schema. -/
inductive SchemaFault where
  /-- The text is not JSON. -/
  | malformed
  | notObject
  | bodyNotObject (command : String)
  | aboutNotTexts (command : String)
  | typeNotText (field command : String)
  deriving DecidableEq, Repr

/-- The causes in words, the outermost first. -/
def SchemaFault.chain : SchemaFault → List String
  | .malformed => ["Schema is not valid JSON", "<json>"]
  | .notObject => ["Schema must be a JSON object mapping command names to bodies"]
  | .bodyNotObject command => ["Command " ++ command ++ " must map to a JSON object"]
  | .aboutNotTexts command => [aboutKey ++ " of " ++ command ++ " must be a list of strings"]
  | .typeNotText field command =>
    ["Field " ++ field ++ " of " ++ command ++ " must have a type string"]

namespace Schema

/-- One documentation entry; a blank one documents nothing. -/
def aboutEntry (s : String) : Option String :=
  if (Text.trim s.toList).isEmpty then none else some s

/-- The documentation entries of a list. -/
def aboutEntries (command : String) : List Json → Except SchemaFault (List (Option String))
  | [] => .ok []
  | .string s :: rest =>
    match aboutEntries command rest with
    | .error e => .error e
    | .ok entries => .ok (aboutEntry s :: entries)
  | _ :: _ => .error (.aboutNotTexts command)

/-- The documentation entries of a body. -/
def about (command : String) (body : List (String × Json)) :
    Except SchemaFault (List (Option String)) :=
  match Json.member? aboutKey body with
  | none => .ok []
  | some (.array entries) => aboutEntries command entries
  | some _ => .error (.aboutNotTexts command)

/-- The documentation at the front of the entries. -/
def nextDocs (entries : List (Option String)) : Option String := entries.head?.join

/-- The fields among the members of a body, documented by position. -/
def fields (command : String) (entries : List (Option String)) :
    List (String × Json) → Except SchemaFault (List FieldDef)
  | [] => .ok []
  | (name, v) :: rest =>
    if name = aboutKey then fields command entries rest
    else
      match v with
      | .string type =>
        match fields command (entries.drop 1) rest with
        | .error e => .error e
        | .ok fs => .ok (⟨name, FieldType.parse type, nextDocs entries⟩ :: fs)
      | _ => .error (.typeNotText name command)

/-- The command of a member. Without documentation it is introduced by its name. -/
def command (name : String) : Json → Except SchemaFault CommandDef
  | .object body =>
    match about name body with
    | .error e => .error e
    | .ok entries =>
      match fields name (entries.drop 1) body with
      | .error e => .error e
      | .ok fs => .ok ⟨name, some ((nextDocs entries).getD (name ++ " command.")), fs⟩
  | _ => .error (.bodyNotObject name)

/-- The commands of members, in order; the first fault ends it. -/
def commands : List (String × Json) → Except SchemaFault (List CommandDef)
  | [] => .ok []
  | (name, body) :: rest =>
    match command name body with
    | .error e => .error e
    | .ok d =>
      match commands rest with
      | .error e => .error e
      | .ok ds => .ok (d :: ds)

/-- The commands of a schema text. -/
def parse (text : String) : Except SchemaFault (List CommandDef) :=
  match Json.read? text with
  | none => .error .malformed
  | some (.object members) => commands members
  | some _ => .error .notObject

end Schema

end CommandForge
