import CommandForge.Files.Tree
import CommandForge.Schema.Parse
/-!
# Loading schemas

A schema is loaded from a file, or from all schema files of a directory in the order of their
names. The order in which the directory lists them does not matter. No command may be defined
twice.
-/

namespace CommandForge

/-- Why a source gives no commands. -/
inductive LoadFault where
  | unreadable (path : String) (cause : OsError)
  | malformed (path : String) (cause : SchemaFault)
  /-- A command that was defined before is defined again in the file. -/
  | repeated (command path : String)
  /-- The directory holds no schema file. -/
  | noFiles (directory : String)
  deriving DecidableEq, Repr

/-- The causes in words, the outermost first. -/
def LoadFault.chain : LoadFault → List String
  | .unreadable path cause => ["Failed to read schema: " ++ path, cause.message]
  | .malformed path cause => ("Failed to parse schema: " ++ path) :: cause.chain
  | .repeated command path =>
    ["Command " ++ command ++ " is defined more than once (again in " ++ path ++ ")"]
  | .noFiles directory => ["No *.json schema files in " ++ directory]

namespace Schema

/-- Texts in order. -/
def sortedTexts (texts : List String) : List String := texts.mergeSort fun a b => !decide (b < a)

/-- The name is that of a schema file. -/
def isSchemaName (name : String) : Bool := Path.extension? name == some ['j', 's', 'o', 'n']

/-- The schema files of a directory, in the order of their names. -/
def filesIn (files : FileTree) (directory : String) : List String :=
  ((sortedTexts ((files.list directory).filter isSchemaName)).map (Path.join directory)).filter
    files.isFile

/-- The files that a source stands for. -/
def sourceFiles (files : FileTree) (source : String) : Except LoadFault (List String) :=
  if files.isDirectory source then
    match filesIn files source with
    | [] => .error (.noFiles source)
    | paths => .ok paths
  else .ok [source]

/-- The first command whose name is among `seen`, or that of a command before it. -/
def repeated? (seen : List String) : List CommandDef → Option String
  | [] => none
  | d :: ds => if seen.contains d.name then some d.name else repeated? (seen ++ [d.name]) ds

/-- The commands of one file. -/
def loadFile (files : FileTree) (path : String) : Except LoadFault (List CommandDef) :=
  match files.readText path with
  | .error e => .error (.unreadable path e)
  | .ok text =>
    match parse text with
    | .error e => .error (.malformed path e)
    | .ok ds => .ok ds

/-- The commands `loaded` and those of further files; the first fault ends it. -/
def loadFiles (files : FileTree) (loaded : List CommandDef) :
    List String → Except LoadFault (List CommandDef)
  | [] => .ok loaded
  | path :: paths =>
    match loadFile files path with
    | .error e => .error e
    | .ok ds =>
      match repeated? (loaded.map (·.name)) ds with
      | some command => .error (.repeated command path)
      | none => loadFiles files (loaded ++ ds) paths

/-- The commands of a source. -/
def load (files : FileTree) (source : String) : Except LoadFault (List CommandDef) :=
  match sourceFiles files source with
  | .error e => .error e
  | .ok paths => loadFiles files [] paths

end Schema

end CommandForge
