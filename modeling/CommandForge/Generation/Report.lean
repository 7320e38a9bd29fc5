import CommandForge.Command.EmitError
import CommandForge.Files.Path
import CommandForge.Target.Basic
/-!
# Reports

What a run leaves behind: an artifact for each pair of a command and a language that could be
produced, a failure for each other pair, and the support files of the languages. Artifacts and
failures are each in the order of their pairs.
-/

namespace CommandForge

/-- The source text of one command in one language. -/
structure Artifact where
  language : String
  /-- The command's name in the schema. -/
  command : String
  /-- The normalized name of the command. -/
  commandName : String
  fileName : String
  /-- The normalized field names, in schema order. -/
  members : List String
  content : String
  deriving DecidableEq, Repr

/-- A support file of one language. -/
structure SupportArtifact where
  language : String
  file : SupportFile
  deriving DecidableEq, Repr

/-- A pair without an artifact, and why. -/
structure PairFailure where
  command : String
  language : String
  error : EmitError
  deriving DecidableEq, Repr

/-- What became of one pair. -/
abbrev Outcome := Except PairFailure Artifact

/-- The path of an artifact inside an output directory. -/
def Artifact.path (a : Artifact) : String := Path.join a.language a.fileName

/-- The path of a support file inside an output directory. -/
def SupportArtifact.path (s : SupportArtifact) : String := Path.join s.language s.file.fileName

/-- The failure in words. -/
def PairFailure.message (f : PairFailure) : String :=
  f.command ++ " [" ++ f.language ++ "]: " ++ f.error.message

/-- The pair of an artifact: its command and its language. -/
def Artifact.pair (a : Artifact) : String × String := (a.command, a.language)

/-- The pair of a failure. -/
def PairFailure.pair (f : PairFailure) : String × String := (f.command, f.language)

/-- The pair that an outcome is about. -/
def Outcome.pair : Outcome → String × String
  | .ok a => a.pair
  | .error f => f.pair

/-- Pairs are ordered by command, and those of one command by language. -/
def pairLE (p q : String × String) : Bool :=
  p.1 < q.1 || (p.1 == q.1 && !decide (q.2 < p.2))

/-- The outcome of a run. -/
structure Report where
  artifacts : List Artifact
  supportFiles : List SupportArtifact
  failures : List PairFailure
  deriving DecidableEq, Repr

namespace Report

/-- The artifacts among outcomes. -/
def produced (outcomes : List Outcome) : List Artifact :=
  outcomes.filterMap fun o => match o with
    | .ok a => some a
    | .error _ => none

/-- The failures among outcomes. -/
def failed (outcomes : List Outcome) : List PairFailure :=
  outcomes.filterMap fun o => match o with
    | .ok _ => none
    | .error f => some f

/-- The report on outcomes; equal pairs stay in their order. -/
def ofOutcomes (outcomes : List Outcome) (supportFiles : List SupportArtifact) : Report where
  artifacts := (produced outcomes).mergeSort fun a b => pairLE a.pair b.pair
  supportFiles := supportFiles
  failures := (failed outcomes).mergeSort fun f g => pairLE f.pair g.pair

/-- Every pair was produced. -/
def isSuccess (r : Report) : Bool := r.failures.isEmpty

/-- The artifacts of one language. -/
def artifactsFor (r : Report) (language : String) : List Artifact :=
  r.artifacts.filter (·.language = language)

/-- The report, if every pair was produced; else the failures. -/
def result (r : Report) : Except (List PairFailure) Report :=
  if r.isSuccess then .ok r else .error r.failures

/-- A failed run in words. -/
def failureSummary (failures : List PairFailure) : String :=
  "generation failed for " ++ toString failures.length ++ " pair(s)"

end Report

end CommandForge
