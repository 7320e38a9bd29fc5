import CommandForge.Text.Lines
/-!
# Options

Arguments are options with long and short names and, in between, at most one word that says what to
do. An option that has a value takes the next argument, or what is attached to it; short options
without values can stand together behind one dash.
-/

namespace CommandForge.CommandLine

/-- What follows an option. -/
inductive OptionKind where
  /-- A path, which is not empty. -/
  | path
  | text
  /-- Texts with commas between them; the option can be given again. -/
  | list
  /-- No value. -/
  | flag
  | help
  | version
  deriving DecidableEq, Repr

/-- An option and its names. -/
structure OptionSpec where
  long : String
  short : Option Char
  kind : OptionKind
  deriving DecidableEq, Repr

/-- Why reading arguments ends before all of them are read. -/
inductive Stop where
  /-- The arguments are wrong. -/
  | usage
  /-- They ask for help. -/
  | help
  /-- They ask for the version. -/
  | version
  deriving DecidableEq, Repr

/-- The options given so far with their values. -/
abbrev Given := List (String × List String)

/-- The pieces of a text between its commas. -/
def commaPieces (s : String) : List String := (Text.split ',' s.toList).map String.ofList

namespace Given

/-- The values of an option, from all the times it is given. -/
def values (given : Given) (long : String) : List String :=
  given.flatMap fun (l, values) => if l = long then values else []

/-- The one value of an option. -/
def value? (given : Given) (long : String) : Option String := (given.values long).head?

/-- The option is given. -/
def has (given : Given) (long : String) : Bool := given.any (·.1 == long)

/-- Adds an option that can be given once. -/
def addOnce (given : Given) (long : String) (values : List String) : Except Stop Given :=
  if given.has long then .error .usage else .ok (given ++ [(long, values)])

/-- Adds an option with its value. -/
def addValue (given : Given) (spec : OptionSpec) (value : String) : Except Stop Given :=
  match spec.kind with
  | .path => if value.isEmpty then .error .usage else given.addOnce spec.long [value]
  | .list => .ok (given ++ [(spec.long, commaPieces value)])
  | .text => given.addOnce spec.long [value]
  | .flag | .help | .version => .error .usage

/-- Adds an option without a value. -/
def addFlag (given : Given) (spec : OptionSpec) : Except Stop Given :=
  match spec.kind with
  | .flag => given.addOnce spec.long []
  | .help => .error .help
  | .version => .error .version
  | .path | .text | .list => .error .usage

end Given

namespace OptionSpec

/-- A value follows the option. -/
def hasValue (spec : OptionSpec) : Bool :=
  match spec.kind with
  | .path | .text | .list => true
  | .flag | .help | .version => false

end OptionSpec

/-- What reading one argument gives: the options so far, and the one whose value comes next. -/
abbrev Step := Except Stop (Given × Option OptionSpec)

/-- Reads a long option behind its two dashes. -/
def readLong (specs : List OptionSpec) (given : Given) (text : List Char) : Step :=
  let name := String.ofList (text.takeWhile (· ≠ '='))
  match specs.find? (·.long == name), text.dropWhile (· ≠ '=') with
  | none, _ => .error .usage
  | some spec, [] =>
    if spec.hasValue then .ok (given, some spec) else (given.addFlag spec).map fun g => (g, none)
  | some spec, _ :: value => (given.addValue spec (String.ofList value)).map fun g => (g, none)

/-- Reads short options behind their dash. -/
def readShort (specs : List OptionSpec) (given : Given) : List Char → Step
  | [] => .ok (given, none)
  | c :: rest =>
    match specs.find? (·.short == some c) with
    | none => .error .usage
    | some spec =>
      if spec.hasValue then
        match rest with
        | [] => .ok (given, some spec)
        | '=' :: value => (given.addValue spec (String.ofList value)).map fun g => (g, none)
        | value => (given.addValue spec (String.ofList value)).map fun g => (g, none)
      else
        match given.addFlag spec with
        | .error stop => .error stop
        | .ok given => readShort specs given rest

/-- The argument is no value by itself: it starts with a dash and is longer. -/
def isDashed (arg : String) : Bool :=
  match arg.toList with
  | '-' :: _ :: _ => true
  | _ => false

/-- Reads options up to a word or the end; the word and the arguments behind it are left. `pending`
is the option whose value comes next. Two dashes end the options, and nothing may follow. -/
def readOptions (specs : List OptionSpec) (given : Given) (pending : Option OptionSpec) :
    List String → Except Stop (Given × List String)
  | [] => if pending.isSome then .error .usage else .ok (given, [])
  | arg :: rest =>
    match pending with
    | some spec =>
      if isDashed arg then .error .usage
      else
        match given.addValue spec arg with
        | .error stop => .error stop
        | .ok given => readOptions specs given none rest
    | none =>
      match arg.toList with
      | ['-', '-'] => if rest.isEmpty then .ok (given, []) else .error .usage
      | '-' :: '-' :: text =>
        match readLong specs given text with
        | .error stop => .error stop
        | .ok (given, pending) => readOptions specs given pending rest
      | '-' :: c :: text =>
        match readShort specs given (c :: text) with
        | .error stop => .error stop
        | .ok (given, pending) => readOptions specs given pending rest
      | _ => .ok (given, arg :: rest)

end CommandForge.CommandLine
