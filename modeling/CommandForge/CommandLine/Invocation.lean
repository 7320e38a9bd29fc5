import CommandForge.CommandLine.Options
/-!
# Invocations

What the arguments ask for. The configuration and the log level can be named before or behind the
word for the action; what stands behind it wins.
-/

namespace CommandForge.CommandLine

/-- What is to be done, and with which files. -/
inductive Action where
  | generate (source output : String) (sequential : Bool)
  | verify (source expected : String) (bless : Bool)
  | check (source : String)
  deriving DecidableEq, Repr

/-- A request to the program. -/
structure Invocation where
  action : Action
  config : Option String := none
  logLevel : Option String := none
  /-- The languages to restrict the run to. -/
  languages : List String := []
  deriving DecidableEq, Repr

/-- Options that can stand before and behind the action. -/
def sharedOptions : List OptionSpec :=
  [⟨"config", some 'c', .path⟩, ⟨"log-level", none, .text⟩, ⟨"help", some 'h', .help⟩]

/-- Options before the action. -/
def leadingOptions : List OptionSpec := sharedOptions ++ [⟨"version", some 'V', .version⟩]

/-- The option that names the schema. -/
def sourceOption : OptionSpec := ⟨"source", some 's', .path⟩

/-- The option that names languages. -/
def langOption : OptionSpec := ⟨"lang", some 'l', .list⟩

/-- Options of the action `generate`. -/
def generateOptions : List OptionSpec :=
  sharedOptions ++ [sourceOption, ⟨"output", some 'o', .path⟩, langOption,
    ⟨"sequential", none, .flag⟩]

/-- Options of the action `verify`. -/
def verifyOptions : List OptionSpec :=
  sharedOptions ++ [sourceOption, ⟨"expected", some 'e', .path⟩, langOption, ⟨"bless", none, .flag⟩]

/-- Options of the action `check`. -/
def checkOptions : List OptionSpec := sharedOptions ++ [sourceOption, langOption]

/-- Reads options behind which nothing may stand. -/
def readAll (specs : List OptionSpec) (args : List String) : Except Stop Given :=
  match readOptions specs [] none args with
  | .error stop => .error stop
  | .ok (given, []) => .ok given
  | .ok (_, _ :: _) => .error .usage

/-- The value of an option that has to be given. -/
def require (given : Given) (long : String) : Except Stop String :=
  match given.value? long with
  | some value => .ok value
  | none => .error .usage

/-- The invocation of an action, from the options before and behind it. -/
def invocation (leading given : Given) (action : Action) : Invocation where
  action := action
  config := (given.value? "config").or (leading.value? "config")
  logLevel := (given.value? "log-level").or (leading.value? "log-level")
  languages := given.values "lang"

/-- Reads the arguments behind the action `generate`. -/
def readGenerate (leading : Given) (args : List String) : Except Stop Invocation := do
  let given ← readAll generateOptions args
  let source ← require given "source"
  let output ← require given "output"
  return invocation leading given (.generate source output (given.has "sequential"))

/-- Reads the arguments behind the action `verify`. -/
def readVerify (leading : Given) (args : List String) : Except Stop Invocation := do
  let given ← readAll verifyOptions args
  let source ← require given "source"
  let expected ← require given "expected"
  return invocation leading given (.verify source expected (given.has "bless"))

/-- Reads the arguments behind the action `check`. -/
def readCheck (leading : Given) (args : List String) : Except Stop Invocation := do
  let given ← readAll checkOptions args
  let source ← require given "source"
  return invocation leading given (.check source)

/-- The words for the actions. -/
def actionWords : List String := ["generate", "verify", "check"]

/-- Reads the arguments behind the word `help`: nothing, or one action. -/
def readHelp : List String → Stop
  | [] => .help
  | [word] => if actionWords.contains word || word == "help" then .help else .usage
  | _ => .usage

/-- The invocation that arguments ask for. -/
def readArguments (args : List String) : Except Stop Invocation :=
  match readOptions leadingOptions [] none args with
  | .error stop => .error stop
  | .ok (leading, word :: rest) =>
    match word with
    | "generate" => readGenerate leading rest
    | "verify" => readVerify leading rest
    | "check" => readCheck leading rest
    | "help" => .error (readHelp rest)
    | _ => .error .usage
  | .ok (_, []) => .error .usage

end CommandForge.CommandLine
