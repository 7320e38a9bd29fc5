import CommandForge.CommandLine.Invocation
import CommandForge.Session
/-!
# The program

Arguments and a file tree give what is printed, the exit code and the tree afterwards. The exit
code is 1 after a failure, 2 when the arguments are wrong, and else 0.
-/

namespace CommandForge.CommandLine

/-- What a run of the program leaves behind. -/
structure Outcome where
  code : Nat
  output : String
  errors : String
  files : FileTree

/-- The name and the version of the program. -/
def versionText : String := "cmdgen 0.3.0\n"

/-- Lines as a text. -/
def linesText (lines : List String) : String := String.join (lines.map (· ++ "\n"))

/-- How the program is used. -/
def usageText : String := linesText [
  "Usage: cmdgen [-c FILE] [--log-level LEVEL] ACTION",
  "",
  "Actions:",
  "  generate -s SOURCE -o DIRECTORY [-l LANGUAGES] [--sequential]",
  "  verify -s SOURCE -e DIRECTORY [-l LANGUAGES] [--bless]",
  "  check -s SOURCE [-l LANGUAGES]"]

/-- A text whose further lines are indented by `indent`. -/
def indented (indent : String) (s : String) : String :=
  ("\n" ++ indent).intercalate ((Text.split '\n' s.toList).map String.ofList)

/-- Numbered causes, one a line. -/
def numbered (n : Nat) : List String → List String
  | [] => []
  | cause :: rest =>
    ("    " ++ toString n ++ ": " ++ indented "       " cause) :: numbered (n + 1) rest

/-- The causes behind a failure, indented; several are numbered. -/
def causeLines : List String → List String
  | [] => []
  | [cause] => ["", "Caused by:", "    " ++ indented "    " cause]
  | causes => ["", "Caused by:"] ++ numbered 0 causes

/-- The lines that tell of a failure. -/
def failureLines : List String → List String
  | [] => []
  | outermost :: causes => ("Error: " ++ outermost) :: causeLines causes

/-- What a session leaves behind. -/
def ofSession (s : Session) : Outcome :=
  match s.failure with
  | none => ⟨0, linesText s.output, linesText s.notices, s.files⟩
  | some fault =>
    ⟨1, linesText s.output, linesText (s.notices ++ failureLines fault.chain), s.files⟩

/-- The overrides that an invocation asks for. -/
def Invocation.overrides (i : Invocation) : Overrides :=
  match i.action with
  | .generate _ _ sequential => ⟨i.languages, sequential⟩
  | .verify .. | .check _ => ⟨i.languages, false⟩

/-- The session that an invocation asks for. -/
def Invocation.session (i : Invocation) (files : FileTree) : Session :=
  match Config.load files i.config i.overrides with
  | .error fault => ⟨files, [], [], some (.settings fault)⟩
  | .ok c =>
    match i.action with
    | .generate source output _ => Session.generate files source output c
    | .verify source expected bless => Session.verify files source expected c bless
    | .check source => Session.check files source c

/-- Runs the program. -/
def run (files : FileTree) (args : List String) : Outcome :=
  match readArguments args with
  | .error .usage => ⟨2, "", usageText, files⟩
  | .error .help => ⟨0, usageText, "", files⟩
  | .error .version => ⟨0, versionText, "", files⟩
  | .ok i => ofSession (i.session files)

end CommandForge.CommandLine
