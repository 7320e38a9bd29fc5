import CommandForge.Files.OsError
import CommandForge.Files.Path
/-!
# File trees

Directories and files with their contents, and a working directory from which relative paths are
looked up. The operations give the new tree or the refusal that the file system would give.
-/

namespace CommandForge

/-- What a file holds: a text, or bytes that are none. -/
inductive Content where
  | text (s : String)
  | bytes (raw : ByteArray)

instance : DecidableEq Content
  | .text s, .text t =>
    if h : s = t then .isTrue (h ▸ rfl) else .isFalse fun he => h (Content.text.inj he)
  | .bytes a, .bytes b =>
    match ByteArray.instDecidableEq a b with
    | .isTrue h => .isTrue (h ▸ rfl)
    | .isFalse h => .isFalse fun he => h (Content.bytes.inj he)
  | .text _, .bytes _ | .bytes _, .text _ => .isFalse nofun

/-- The content that bytes make up. -/
def Content.ofBytes (raw : ByteArray) : Content :=
  match String.fromUTF8? raw with
  | some s => .text s
  | none => .bytes raw

/-- A file or a directory. -/
inductive FileNode where
  | directory
  | file (content : Content)
  deriving DecidableEq

/-- Directories and files under their names from the root on, in the order in which a directory
lists them. The root itself is not listed. -/
structure FileTree where
  entries : List (List String × FileNode)
  workingDirectory : List String

namespace FileTree

/-- What a path leads to. -/
inductive Place where
  | directory (location : List String)
  | file (location : List String) (content : Content)
  /-- Nothing, inside a directory. -/
  | vacant (location : List String)

/-- What stands at a location. -/
def node? (t : FileTree) (location : List String) : Option FileNode :=
  if location.isEmpty then some .directory else t.entries.lookup location

/-- Follows the pieces of a path from the directory `here`. -/
def walk (t : FileTree) (here : List String) : List (List Char) → Except OsError Place
  | [] => .ok (.directory here)
  | piece :: rest =>
    match piece with
    | [] | ['.'] => walk t here rest
    | ['.', '.'] => walk t here.dropLast rest
    | name =>
      let location := here ++ [String.ofList name]
      match t.node? location with
      | some .directory => walk t location rest
      | some (.file content) =>
        if rest.isEmpty then .ok (.file location content) else .error .notDirectory
      | none => if rest.isEmpty then .ok (.vacant location) else .error .notFound

/-- The path asks for a directory by a slash at its end. -/
def endsInSlash (path : String) : Bool := path.toList.getLast? == some '/'

/-- What a path leads to; slashes at its end are looked at apart. -/
def find (t : FileTree) (path : String) : Except OsError Place :=
  if path.isEmpty then .error .notFound
  else
    t.walk (if Path.isAbsolute path then [] else t.workingDirectory)
      ((Path.segments path).filter (· ≠ []))

/-- The path leads to a directory. -/
def isDirectory (t : FileTree) (path : String) : Bool :=
  match t.find path with
  | .ok (.directory _) => true
  | _ => false

/-- The path leads to a file. -/
def isFile (t : FileTree) (path : String) : Bool :=
  match t.find path with
  | .ok (.file ..) => !endsInSlash path
  | _ => false

/-- Puts a node at a location: in its place when there is one, else behind all others. -/
def putEntry (location : List String) (node : FileNode) :
    List (List String × FileNode) → List (List String × FileNode)
  | [] => [(location, node)]
  | (l, n) :: rest =>
    if l = location then (l, node) :: rest else (l, n) :: putEntry location node rest

/-- The tree with a node at a location. -/
def put (t : FileTree) (location : List String) (node : FileNode) : FileTree :=
  { t with entries := putEntry location node t.entries }

/-- The text of a file. -/
def readText (t : FileTree) (path : String) : Except OsError String :=
  match t.find path with
  | .error e => .error e
  | .ok (.directory _) => .error .isDirectory
  | .ok (.vacant _) => .error .notFound
  | .ok (.file _ content) =>
    if endsInSlash path then .error .notDirectory
    else
      match content with
      | .text s => .ok s
      | .bytes _ => .error .notText

/-- Makes the file hold `content`, whatever it held. A path that asks for a directory is refused as
one, whatever it leads to. -/
def write (t : FileTree) (path : String) (content : Content) : Except OsError FileTree :=
  match t.find path with
  | .error e => .error e
  | .ok (.directory _) => .error .isDirectory
  | .ok (.vacant location) | .ok (.file location _) =>
    if endsInSlash path then .error .isDirectory else .ok (t.put location (.file content))

/-- Makes one directory. -/
def makeDirectory (t : FileTree) (path : String) : Except OsError FileTree :=
  match t.find path with
  | .error e => .error e
  | .ok (.vacant location) => .ok (t.put location .directory)
  | .ok _ => .error .exists

/-- Makes a directory and those above it that are missing. What was made stays when a later step is
refused. A path has fewer components than characters, which bounds the steps up. -/
def makeDirectories (t : FileTree) (path : String) : FileTree × Except OsError Unit :=
  go path.length t path
where
  /-- Makes the directory after those above it. -/
  go : Nat → FileTree → String → FileTree × Except OsError Unit
    | 0, t, path => if path.isEmpty then (t, .ok ()) else (t, .error .notFound)
    | steps + 1, t, path =>
      if path.isEmpty then (t, .ok ())
      else
        match t.makeDirectory path with
        | .ok t => (t, .ok ())
        | .error .notFound =>
          match Path.parent? path with
          | none => (t, .error .notFound)
          | some above =>
            match go steps t above with
            | (t, .error e) => (t, .error e)
            | (t, .ok ()) => last t path
        | .error e => if t.isDirectory path then (t, .ok ()) else (t, .error e)
  /-- Makes the directory once those above it are there. -/
  last (t : FileTree) (path : String) : FileTree × Except OsError Unit :=
    match t.makeDirectory path with
    | .ok t => (t, .ok ())
    | .error e => if t.isDirectory path then (t, .ok ()) else (t, .error e)

/-- Makes the directories above a file. -/
def makeAbove (t : FileTree) (file : String) : FileTree × Except FileFault Unit :=
  match Path.parent? file with
  | none => (t, .ok ())
  | some above =>
    match t.makeDirectories above with
    | (t, .error e) => (t, .error ⟨above, e⟩)
    | (t, .ok ()) => (t, .ok ())

/-- The names in a directory, in the order of the listing. -/
def namesIn (t : FileTree) (location : List String) : List String :=
  t.entries.filterMap fun (l, _) =>
    if l.dropLast = location then l.getLast? else none

/-- The names in the directory that a path leads to. -/
def list (t : FileTree) (path : String) : List String :=
  match t.find path with
  | .ok (.directory location) => t.namesIn location
  | _ => []

end FileTree

end CommandForge
