import CommandForge.Generation.Report
/-!
# Collisions

Two commands must not share a normalized name, in whatever languages, and no path may be written
for a command and for something else. Each artifact concerned is refused: there is no winner. The
name is looked at before the path.
-/

namespace CommandForge

/-- The smallest text of a list. -/
def least? : List String → Option String
  | [] => none
  | s :: rest =>
    match least? rest with
    | none => some s
    | some t => some (if t < s then t else s)

/-- Something that is written to a path: a command, or a support file. -/
structure Writer where
  path : List Path.Component
  label : String
  deriving DecidableEq, Repr

/-- The support file as a writer. -/
def SupportArtifact.writer (s : SupportArtifact) : Writer :=
  ⟨Path.components s.path, "support file " ++ s.file.fileName⟩

/-- The command of an artifact as a writer. -/
def Artifact.writer (a : Artifact) : Writer := ⟨Path.components a.path, a.command⟩

namespace Collision

/-- The commands other than `a`'s own that have its normalized name. -/
def sharing (produced : List Artifact) (a : Artifact) : List String :=
  (produced.filter fun b => b.commandName = a.commandName && b.command != a.command).map
    (·.command)

/-- The first writer of `a`'s path that is labelled otherwise than `a`'s command. -/
def otherWriter? (writers : List Writer) (a : Artifact) : Option Writer :=
  let path := Path.components a.path
  writers.find? fun w => w.path = path && w.label != a.command

/-- Why the artifact cannot stay among the produced ones, if it cannot. -/
def find? (produced : List Artifact) (writers : List Writer) (a : Artifact) : Option EmitError :=
  match least? (sharing produced a) with
  | some other => some (.duplicateCommandName a.commandName other)
  | none => (otherWriter? writers a).map fun w => .outputCollision a.path w.label

/-- The outcomes with every artifact that collides turned into a failure. -/
def reject (outcomes : List Outcome) (supportFiles : List SupportArtifact) : List Outcome :=
  let produced := Report.produced outcomes
  let writers := supportFiles.map (·.writer) ++ produced.map (·.writer)
  outcomes.map fun o =>
    match o with
    | .error f => .error f
    | .ok a =>
      match find? produced writers a with
      | some error => .error ⟨a.command, a.language, error⟩
      | none => .ok a

end Collision

end CommandForge
