import CommandForge.Declaration.Grammar.Reading
/-!
# Rules of the grammar

The forms that contain one another are read by rules. A rule is written with what reads the forms
inside it, so that the rules can stand in modules of their own; `Grammar` ties them together.
-/

namespace CommandForge.Declaration.Grammar

/-- What a form is, as far as what stands around it depends on that. -/
inductive FormKind where
  | plain
  /-- A type that is a single name with its arguments. -/
  | name
  /-- A type that is another path. -/
  | path
  /-- A trait with what is asked of it, or a type that is one; `inner` is it without brackets around
  it. -/
  | bound (inner : List Token)
  /-- A value that ends in curly brackets and is a statement by itself. -/
  | block
  /-- A macro call. -/
  | invocation (curly : Bool)
  | range
  /-- Two operands with a comparison between them. -/
  | comparison
  /-- Two dots in a pattern. -/
  | rest
  /-- A range in a pattern that is open at one side. -/
  | openRange
  /-- A form that is kept as it stands. -/
  | verbatim
  deriving DecidableEq, Repr

/-- A form that has been read. -/
structure Written where
  tokens : List Token
  kind : FormKind := .plain
  /-- Attributes in front of it belong to something that is kept as it stands, and are lost. -/
  losesAttributes : Bool := false
  deriving DecidableEq, Repr

/-- How tightly an operator binds. -/
inductive Level where
  | jump
  | assign
  | range
  | or
  | and
  | compare
  | bitOr
  | bitXor
  | bitAnd
  | shift
  | sum
  | product
  | cast
  deriving DecidableEq, Repr

/-- Levels as numbers, the tighter ones greater. -/
def Level.rank : Level → Nat
  | .jump => 0
  | .assign => 1
  | .range => 2
  | .or => 3
  | .and => 4
  | .compare => 5
  | .bitOr => 6
  | .bitXor => 7
  | .bitAnd => 8
  | .shift => 9
  | .sum => 10
  | .product => 11
  | .cast => 12

/-- The forms that contain one another. A value with `braces` can be a name with fields in curly
brackets. -/
inductive Nonterminal where
  /-- A type; with `plus`, it can be the sum of a path and bounds. -/
  | type (plus : Bool)
  /-- Arguments in angle brackets. -/
  | angled
  /-- Something asked of a type: a lifetime or a trait; when `capturing`, also what is captured, and
  with `constants`, also a trait for constant evaluation. -/
  | bound (capturing constants : Bool)
  | value (braces : Bool)
  /-- What stands between operators. -/
  | operand (braces : Bool)
  /-- What follows an operand, up to operators that bind less tightly. -/
  | operations (left : Written) (level : Level) (braces : Bool)
  /-- A value that ends with curly brackets where a statement would. -/
  | statementValue
  /-- A condition with what depends on it. -/
  | conditional
  | pattern
  /-- The statements inside curly brackets. -/
  | statements
  | item
  /-- Fields with names in curly brackets. -/
  | fields
  /-- What is named behind the word for use; with `root`, it can start with a double colon. -/
  | useTree (root : Bool)

/-- Reads the forms inside a form. -/
abbrev Rules := Nonterminal → Reader Written

namespace Rules

variable (rules : Rules)

/-- The tokens of a form. -/
def form (n : Nonterminal) : Form := Written.tokens <$> rules n

/-- A type. -/
def type : Form := rules.form (.type true)

/-- A value. -/
def value : Form := rules.form (.value true)

/-- A value in front of curly brackets that do not belong to it. -/
def condition : Form := rules.form (.value false)

/-- Arguments in angle brackets behind a double colon. -/
def turbofish : Form := do
  let lead ← symbol "::"
  let arguments ← rules.form .angled
  return lead ++ arguments

/-- Statements in curly brackets. -/
def block : Form := inside .curly (rules.form .statements)

end Rules

end CommandForge.Declaration.Grammar
