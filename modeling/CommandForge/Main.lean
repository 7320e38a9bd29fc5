import CommandForge.CommandLine.Program
/-!
# The command line

Standard input names the files that a run may see, one path a line and seen from the working
directory; a path that ends in a slash names a directory. Their contents are read, the program runs
on them, and what it made or changed is written.
-/

namespace CommandForge.Main

/-- The location of the working directory in the tree. -/
def here : List String := ["."]

/-- Adds a named directory, or a named file if it can be read. -/
def addNamed (files : FileTree) (name : String) : IO FileTree := do
  match Path.parent? name with
  | none => return files
  | some above =>
    let files := (files.makeDirectories above).1
    if FileTree.endsInSlash name then return (files.makeDirectories name).1
    try
      let raw ← IO.FS.readBinFile name
      match files.write name (.ofBytes raw) with
      | .ok files => return files
      | .error _ => return files
    catch _ => return files

/-- The tree with the named files. -/
def readTree (names : List String) : IO FileTree :=
  names.foldlM addNamed ⟨[(here, .directory)], here⟩

/-- Writes one file or directory of the working directory unless it was there before. -/
def writeNode (before : FileTree) (entry : List String × FileNode) : IO Unit := do
  let (location, node) := entry
  if before.node? location = some node then return
  let path := "/".intercalate location
  match node with
  | .directory => IO.FS.createDirAll path
  | .file (.text s) => IO.FS.writeFile path s
  | .file (.bytes raw) => IO.FS.writeBinFile path raw

/-- The lines of standard input that are not empty. -/
def readNames (input : IO.FS.Stream) : IO (List String) := do
  let text ← readAll input ""
  return (Text.lines text.toList).filterMap fun line =>
    if line.isEmpty then none else some (String.ofList line)
where
  /-- What is left of the input, behind `text`. -/
  readAll (input : IO.FS.Stream) (text : String) : IO String := do
    let mut text := text
    repeat
      let line ← input.getLine
      if line.isEmpty then break
      text := text ++ line
    return text

end CommandForge.Main

open CommandForge in
/-- Runs the program on the files that standard input names. -/
def main (args : List String) : IO UInt32 := do
  let names ← Main.readNames (← IO.getStdin)
  let before ← Main.readTree names
  let outcome := CommandLine.run before args
  for entry in outcome.files.entries do
    Main.writeNode before entry
  IO.print outcome.output
  IO.eprint outcome.errors
  return outcome.code.toUInt32
