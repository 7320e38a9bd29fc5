import CommandForge.Config.Read
import CommandForge.Fixture
import CommandForge.Generation.Generator
import CommandForge.Schema.Load
/-!
# Sessions

What a user asks for in one go: to generate the sources of a schema, to verify them against
fixtures, or to check a schema. Each is a function of the file tree and gives the tree afterwards,
the lines to print, and the failure if there is one. Pairs that can be produced are written even
when others cannot.
-/

namespace CommandForge

/-- Why a session failed. -/
inductive SessionFault where
  | settings (cause : SettingsFault)
  | load (cause : LoadFault)
  | config (cause : ConfigFault)
  | directoryNotMade (fault : FileFault)
  | fileNotWritten (fault : FileFault)
  | notBlessed (fault : FileFault)
  /-- Pairs without an artifact. -/
  | notGenerated (pairs : Nat)
  /-- The same, when nothing was to be written. -/
  | notValid (pairs : Nat)
  | mismatched (fixtures : Nat)
  deriving DecidableEq, Repr

/-- The causes in words, the outermost first. -/
def SessionFault.chain : SessionFault → List String
  | .settings cause => cause.chain
  | .load cause => cause.chain
  | .config cause => cause.chain
  | .directoryNotMade fault => ["Failed to create directory: " ++ fault.path, fault.cause.message]
  | .fileNotWritten fault => ["Failed to write " ++ fault.path, fault.cause.message]
  | .notBlessed fault => fault.chain
  | .notGenerated pairs =>
    ["Generation failed for " ++ toString pairs ++ " command/language pair(s)"]
  | .notValid pairs =>
    ["Schema check failed for " ++ toString pairs ++ " command/language pair(s)"]
  | .mismatched fixtures => [toString fixtures ++ " golden fixture mismatch(es)"]

/-- What a session leaves behind. -/
structure Session where
  files : FileTree
  /-- The lines of its output. -/
  output : List String := []
  /-- The lines about what is wrong with single pairs. -/
  notices : List String := []
  failure : Option SessionFault := none

namespace Session

/-- The line for a failed pair. -/
def failureLine (f : PairFailure) : String := "✗ " ++ f.message

/-- The files of a report with their paths under an output directory, artifacts first. -/
def reportFiles (r : Report) (output : String) : List (String × String) :=
  r.artifacts.map (fun a => (Path.join output a.path, a.content))
    ++ r.supportFiles.map fun s => (Path.join output s.path, s.file.content)

/-- Writes one file and makes the directories above it. -/
def writeFile (files : FileTree) (path content : String) : FileTree × Except SessionFault Unit :=
  match files.makeAbove path with
  | (files, .error fault) => (files, .error (.directoryNotMade fault))
  | (files, .ok ()) =>
    match files.write path (.text content) with
    | .error e => (files, .error (.fileNotWritten ⟨path, e⟩))
    | .ok files => (files, .ok ())

/-- Writes files in order; the first refusal ends it. -/
def writeFiles (files : FileTree) : List (String × String) → FileTree × Except SessionFault Unit
  | [] => (files, .ok ())
  | (path, content) :: rest =>
    match writeFile files path content with
    | (files, .error fault) => (files, .error fault)
    | (files, .ok ()) => writeFiles files rest

/-- The commands of a source and a generator for them. -/
def prepare (files : FileTree) (source : String) (c : Config) :
    Except SessionFault (List CommandDef × Generator) :=
  match Schema.load files source with
  | .error e => .error (.load e)
  | .ok commands =>
    match Generator.ofConfig c with
    | .error e => .error (.config e)
    | .ok g => .ok (commands, g)

/-- The languages of a generator in a line. -/
def languagesText (g : Generator) : String := ", ".intercalate g.languages

/-- Writes the sources of all commands, and the support files, under `output`. -/
def generate (files : FileTree) (source output : String) (c : Config) : Session :=
  match prepare files source c with
  | .error fault => ⟨files, [], [], some fault⟩
  | .ok (commands, g) =>
    let report := g.run commands
    let opening := "Generating " ++ toString commands.length ++ " command(s) for "
      ++ languagesText g
    let written := reportFiles report output
    match writeFiles files written with
    | (files, .error fault) => ⟨files, [opening], [], some fault⟩
    | (files, .ok ()) =>
      let closing := "✓ Wrote " ++ toString written.length ++ " file(s) to " ++ output
      ⟨files, [opening, closing], report.failures.map failureLine,
        if report.isSuccess then none else some (.notGenerated report.failures.length)⟩

/-- Makes the fixtures hold the artifacts. -/
def bless (files : FileTree) (expected : String) (report : Report) : Session :=
  match Fixture.bless files expected report.artifacts with
  | (files, .error fault) => ⟨files, [], [], some (.notBlessed fault)⟩
  | (files, .ok ()) =>
    ⟨files, ["✓ Blessed " ++ toString report.artifacts.length ++ " fixture(s) in " ++ expected], [],
      none⟩

/-- Compares the artifacts with the fixtures. -/
def compare (files : FileTree) (expected : String) (report : Report) : Session :=
  match Fixture.mismatches files expected report.artifacts with
  | [] =>
    ⟨files, ["✓ " ++ toString report.artifacts.length ++ " artifact(s) match " ++ expected], [],
      none⟩
  | ms => ⟨files, [], ms.map fun m => "✗ " ++ m.message, some (.mismatched ms.length)⟩

/-- Compares the sources of all commands with the fixtures under `expected`, or makes these hold
them. Nothing is compared or written unless every pair can be produced. -/
def verify (files : FileTree) (source expected : String) (c : Config) (blessing : Bool) :
    Session :=
  match prepare files source c with
  | .error fault => ⟨files, [], [], some fault⟩
  | .ok (commands, g) =>
    let report := g.run commands
    if !report.isSuccess then
      ⟨files, [], report.failures.map failureLine,
        some (.notGenerated report.failures.length)⟩
    else if blessing then bless files expected report
    else compare files expected report

/-- Checks a schema against all languages; nothing is written. -/
def check (files : FileTree) (source : String) (c : Config) : Session :=
  match prepare files source c with
  | .error fault => ⟨files, [], [], some fault⟩
  | .ok (commands, g) =>
    let report := g.run commands
    let lines := ["✓ Schema: " ++ source, "  Commands: " ++ toString commands.length]
      ++ commands.map (fun d =>
        "    " ++ d.name ++ " (" ++ toString d.fields.length ++ " field(s))")
      ++ ["  Languages: " ++ languagesText g]
    if report.isSuccess then
      ⟨files,
        lines ++ ["✓ " ++ toString report.artifacts.length ++ " file(s) would be generated"], [],
        none⟩
    else
      ⟨files, lines, report.failures.map failureLine, some (.notValid report.failures.length)⟩

end Session

end CommandForge
