import CommandForge.Files.OsError
import CommandForge.Target.Cpp
import CommandForge.Target.CSharp
import CommandForge.Target.Java
import CommandForge.Target.JavaScript
import CommandForge.Target.Python
import CommandForge.Target.Rust
/-!
# Configuration

What a run can be told: the languages, the names that generated sources are put under, and how to
run. `Config.check` accepts what every built-in target can work with.
-/

namespace CommandForge

/-- The settings of a run. -/
structure Config where
  /-- Identifiers of the languages to generate. -/
  languages : List String := ["python", "javascript", "csharp", "cplusplus", "java", "rust"]
  /-- Namespace of C# and C++ types, dot separated. -/
  typeNamespace : String := "GeneratedCommands"
  /-- Package of Java classes, dot separated. -/
  javaPackage : String := "generated.commands"
  /-- Path of the crate that holds the trait of Rust commands. -/
  rustCrate : String := "cmdgen"
  /-- Pairs may be produced side by side. The report does not depend on it. -/
  parallel : Bool := true
  /-- How much is logged. -/
  logLevel : String := "info"
  deriving DecidableEq, Repr

/-- Why a configuration cannot be used. -/
inductive ConfigFault where
  | unreadable (fault : FileFault)
  /-- The text is not TOML, or a setting has a value of another type. -/
  | malformed
  /-- A key of the text has too many parts. -/
  | longKey
  | noLanguages
  | unknownLanguage (language : String)
  | notDotted (key value : String)
  | badCratePath (value : String)
  deriving DecidableEq, Repr

/-- The languages that come with the generator, in the order in which they are offered. -/
def builtinLanguages : List String :=
  ["python", "javascript", "csharp", "cplusplus", "java", "rust"]

/-- Stands for the message of a reader that keeps no account of what is wrong. -/
def malformedToml : String := "<toml>"

namespace ConfigFault

open Text (quoted)

/-- The causes in words, the outermost first. -/
def chain : ConfigFault → List String
  | .unreadable fault => fault.chain
  | .malformed => [malformedToml]
  | .longKey => ["configuration error: recursion limit\n"]
  | .noLanguages => ["configuration error: at least one language must be configured"]
  | .unknownLanguage language =>
    ["configuration error: unknown language " ++ quoted language ++ " (expected one of: "
      ++ ", ".intercalate builtinLanguages ++ ")"]
  | .notDotted key value =>
    ["configuration error: " ++ key ++ " " ++ quoted value ++ " must be dot-separated identifiers"]
  | .badCratePath value =>
    ["configuration error: rust_crate " ++ quoted value ++ " is not a valid crate path"]

/-- The outermost cause in words. -/
def message (e : ConfigFault) : String := e.chain.headD ""

end ConfigFault

namespace Config

/-- An ASCII letter or underscore, then ASCII letters, digits and underscores. -/
def isPlainIdentifier : List Char → Bool
  | [] => false
  | c :: cs => (c.isAlpha || c == '_') && cs.all fun d => d.isAlphanum || d == '_'

/-- Plain identifiers with dots between them. -/
def isDotted (s : String) : Bool := (Text.split '.' s.toList).all isPlainIdentifier

/-- Plain identifiers with double colons between them. -/
def isCratePath (s : String) : Bool := (Text.splitPattern ':' [':'] s.toList).all isPlainIdentifier

/-- The first thing wrong with a configuration. -/
def fault? (c : Config) : Option ConfigFault :=
  if c.languages.isEmpty then some .noLanguages
  else
    match c.languages.find? fun l => !builtinLanguages.contains l with
    | some language => some (.unknownLanguage language)
    | none =>
      if !isDotted c.typeNamespace then some (.notDotted "namespace" c.typeNamespace)
      else if !isDotted c.javaPackage then some (.notDotted "java_package" c.javaPackage)
      else if !isCratePath c.rustCrate then some (.badCratePath c.rustCrate)
      else none

/-- Accepts a configuration that can be used. -/
def check (c : Config) : Except ConfigFault Unit :=
  match c.fault? with
  | some fault => .error fault
  | none => .ok ()

end Config

/-- The built-in target for a language, with the names that `c` gives. -/
def Target.builtin? (language : String) (c : Config) : Option Target :=
  match language with
  | "python" => some .python
  | "javascript" => some .javaScript
  | "csharp" => some (.cSharp c.typeNamespace)
  | "cplusplus" => some (.cpp c.typeNamespace)
  | "java" => some (.java c.javaPackage)
  | "rust" => some (.rust c.rustCrate)
  | _ => none

end CommandForge
