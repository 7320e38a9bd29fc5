import CommandForge.Files.Tree
import CommandForge.Generation.Report
import CommandForge.Patch.Hunk
import CommandForge.Text.Canonical
/-!
# Fixtures

Artifacts are compared with files that hold what is expected of them, at the artifacts' own paths
under a root. Blank space at line ends and blank lines at the ends of a text do not count. The
files can be made to hold what the artifacts are.
-/

namespace CommandForge

/-- An artifact that is not as expected. -/
structure Mismatch where
  command : String
  language : String
  /-- The file that says what is expected. -/
  path : String
  /-- A patch from what is expected to what is there, or a note that the file cannot be read. -/
  diff : String
  deriving DecidableEq, Repr

/-- The mismatch in words. -/
def Mismatch.message (m : Mismatch) : String :=
  m.command ++ " [" ++ m.language ++ "] differs from " ++ m.path ++ "\n" ++ m.diff

namespace Fixture

/-- The file for an artifact. -/
def path (root : String) (a : Artifact) : String := Path.join root a.path

/-- The patch between two texts, blank space aside; none if they agree. -/
def difference? (expected actual : String) : Option String :=
  let expected := Text.canonical expected
  let actual := Text.canonical actual
  if expected = actual then none else some (Patch.unified expected actual)

/-- What is not as expected about an artifact. -/
def diff? (files : FileTree) (root : String) (a : Artifact) : Option String :=
  match files.readText (path root a) with
  | .error e => some ("missing fixture " ++ path root a ++ ": " ++ e.message ++ "\n")
  | .ok expected => difference? expected a.content

/-- The mismatch of an artifact, if there is one. -/
def mismatch? (files : FileTree) (root : String) (a : Artifact) : Option Mismatch :=
  (diff? files root a).map fun diff => ⟨a.command, a.language, path root a, diff⟩

/-- The mismatches of artifacts, in order. -/
def mismatches (files : FileTree) (root : String) (artifacts : List Artifact) : List Mismatch :=
  artifacts.filterMap (mismatch? files root)

/-- Makes one file hold its artifact. -/
def blessOne (files : FileTree) (root : String) (a : Artifact) :
    FileTree × Except FileFault Unit :=
  let file := path root a
  match files.makeAbove file with
  | (files, .error e) => (files, .error e)
  | (files, .ok ()) =>
    match files.write file (.text a.content) with
    | .error e => (files, .error ⟨file, e⟩)
    | .ok files => (files, .ok ())

/-- Makes the files hold the artifacts, in order; the first refusal ends it. -/
def bless (files : FileTree) (root : String) : List Artifact → FileTree × Except FileFault Unit
  | [] => (files, .ok ())
  | a :: rest =>
    match blessOne files root a with
    | (files, .error e) => (files, .error e)
    | (files, .ok ()) => bless files root rest

end Fixture

end CommandForge
