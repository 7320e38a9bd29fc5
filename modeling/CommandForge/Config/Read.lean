import CommandForge.Config
import CommandForge.Files.Tree
import CommandForge.Toml.Reader
/-!
# Reading configurations

A configuration is a TOML text. A setting that is not there has its default, and what is no setting
is passed over. What a caller asks for at the same time wins over the text.
-/

namespace CommandForge

namespace Config

/-- The text of a setting. -/
def text? : Toml → Option String
  | .string s => some s
  | _ => none

/-- The texts of a setting. -/
def texts? : Toml → Option (List String)
  | .array items => items.mapM text?
  | _ => none

/-- The truth value of a setting. -/
def flag? : Toml → Option Bool
  | .bool b => some b
  | _ => none

/-- A setting of a table, or its default; none when it has a value of another type. -/
def setting {α : Type} (entries : Toml.Entries) (key : String) (read : Toml → Option α)
    (default : α) : Option α :=
  match Toml.entry? key entries with
  | none => some default
  | some v => read v

/-- The configuration that a table holds. -/
def ofEntries? (entries : Toml.Entries) : Option Config := do
  let c : Config := {}
  let languages ← setting entries "languages" texts? c.languages
  let typeNamespace ← setting entries "namespace" text? c.typeNamespace
  let javaPackage ← setting entries "java_package" text? c.javaPackage
  let rustCrate ← setting entries "rust_crate" text? c.rustCrate
  let parallel ← setting entries "parallel" flag? c.parallel
  let logLevel ← setting entries "log_level" text? c.logLevel
  return ⟨languages, typeNamespace, javaPackage, rustCrate, parallel, logLevel⟩

/-- The configuration that a text holds, if it can be used. -/
def parse (text : String) : Except ConfigFault Config :=
  match Toml.read text with
  | .error .malformed => .error .malformed
  | .error .longKey => .error .longKey
  | .ok entries =>
    match ofEntries? entries with
    | none => .error .malformed
    | some c =>
      match c.fault? with
      | some fault => .error fault
      | none => .ok c

/-- The configuration in a file. -/
def parseFile (files : FileTree) (path : String) : Except ConfigFault Config :=
  match files.readText path with
  | .error e => .error (.unreadable ⟨path, e⟩)
  | .ok text => parse text

/-- The file that is looked at when none is named. -/
def defaultFile : String := "cmdgen.toml"

end Config

/-- What a caller asks for besides the configuration. -/
structure Overrides where
  /-- The languages to generate; the configured ones if there are none. -/
  languages : List String := []
  /-- Pairs are produced one after another. -/
  sequential : Bool := false
  deriving DecidableEq, Repr

/-- Why there are no settings for a run. -/
inductive SettingsFault where
  | unloaded (path : String) (cause : ConfigFault)
  | unusable (cause : ConfigFault)
  deriving DecidableEq, Repr

/-- The causes in words, the outermost first. -/
def SettingsFault.chain : SettingsFault → List String
  | .unloaded path cause => ("Failed to load config: " ++ path) :: cause.chain
  | .unusable cause => "Invalid configuration" :: cause.chain

namespace Config

/-- The configuration with what the caller asks for. -/
def override (c : Config) (o : Overrides) : Config :=
  { c with
    languages :=
      if o.languages.isEmpty then c.languages
      else o.languages.map fun l => String.ofList (Text.trim l.toList)
    parallel := c.parallel && !o.sequential }

/-- The configuration of a file, of the default file if it is there, or the default one. -/
def base (files : FileTree) (path : Option String) : Except SettingsFault Config :=
  let load (path : String) : Except SettingsFault Config :=
    match parseFile files path with
    | .error e => .error (.unloaded path e)
    | .ok c => .ok c
  match path with
  | some path => load path
  | none => if files.isFile defaultFile then load defaultFile else .ok {}

/-- The settings for a run. -/
def load (files : FileTree) (path : Option String) (o : Overrides) :
    Except SettingsFault Config :=
  match base files path with
  | .error e => .error e
  | .ok c =>
    match (c.override o).fault? with
    | some fault => .error (.unusable fault)
    | none => .ok (c.override o)

end Config

end CommandForge
