import CommandForge.Declaration.Grammar.Pattern
/-!
# Operators

Operands with operators between them. An operator takes what binds more tightly behind it; those
that assign also take each other. A range is never the left side of an operator, and comparisons do
not follow one another.
-/

namespace CommandForge.Declaration.Grammar

/-- Operators between two operands, longer ones before those they start with. -/
def operators : List (String × Level) := [
  ("+=", .assign), ("-=", .assign), ("*=", .assign), ("/=", .assign), ("%=", .assign),
  ("^=", .assign), ("&=", .assign), ("|=", .assign), ("<<=", .assign), (">>=", .assign),
  ("&&", .and), ("||", .or), ("<<", .shift), (">>", .shift), ("==", .compare), ("<=", .compare),
  ("!=", .compare), (">=", .compare), ("+", .sum), ("-", .sum), ("*", .product), ("/", .product),
  ("%", .product), ("^", .bitXor), ("&", .bitAnd), ("|", .bitOr), ("<", .compare), (">", .compare)]

/-- The operator at the start. -/
def operator? (ts : List Token) : Option (String × Level) :=
  operators.find? fun o => startsWith o.1 ts

/-- How tightly what stands at the start binds to what stands before it. -/
def levelAhead (ts : List Token) : Level :=
  match operator? ts with
  | some (_, level) => level
  | none =>
    if startsWithEquals ts then .assign
    else if startsWith ".." ts then .range
    else if startsWithWord "as" ts then .cast
    else .jump

/-- A value can start here. -/
def startsWithValue (ts : List Token) : Bool :=
  (startsWithIdent ts && !startsWithWord "as" ts) || startsWithOpening ts || startsWithLiteral ts
    || startsWithBang ts || startsWith ".." ts || startsWith "::" ts || startsWithLifetime ts
    || startsWith "#" ts
    || (startsWith "-" ts && !startsWith "-=" ts && !startsWith "->" ts)
    || (startsWith "*" ts && !startsWith "*=" ts) || (startsWith "|" ts && !startsWith "|=" ts)
    || (startsWith "&" ts && !startsWith "&=" ts)
    || (startsWith "<" ts && !startsWith "<=" ts && !startsWith "<<=" ts)

/-- What can stand behind a range without an end. -/
def endsRange (braces : Bool) (ts : List Token) : Bool :=
  atEnd ts || startsWithDot ts || (!braces && startsWithBracket .curly ts)
    || startsWithWord "as" ts
    || [",", ";", "?", "=", "+", "/", "%", "^", ">", "<=", "!=", "-=", "*=", "&=", "|=", "<<="].any
      (startsWith · ts)

variable (rules : Rules)

/-- What an operator takes behind it. -/
def rightOperand (level : Level) (braces : Bool) : Form := do
  let first ← rules (.operand braces)
  let whole ← repeatedly (fun right => do
    let ts ← get
    let next := levelAhead ts
    if level.rank < next.rank || (next == .assign && level == .assign) then
      let longer ← rules (.operations right next braces)
      let rest ← get
      return if rest.length < ts.length then some longer else none
    else return none) first
  return whole.tokens

/-- Two or three characters for a range, with its end if it has one. -/
def rangeEnd (braces : Bool) : Form := do
  let ts ← get
  demand !(startsWith "..." ts)
  let isClosed := startsWith "..=" ts
  let dots ← if isClosed then symbol "..=" else symbol ".."
  if ← looking fun ts => !isClosed && endsRange braces ts then return dots
  else
    let stop ← rightOperand rules .range braces
    return dots ++ stop

/-- The operand with the operator behind it and what that takes; none if there is no operator that
binds as tightly as `level`. -/
def operation (left : Written) (level : Level) (braces : Bool) : Reader (Option Written) := do
  let ts ← get
  let join (kind : FormKind) (more : List Token) : Option Written :=
    some { left with tokens := left.tokens ++ more, kind }
  if left.kind = .range then return none
  else
    match operator? ts with
    | some (sign, next) =>
      if next.rank < level.rank then return none
      else
        demand !(next == .compare && left.kind == .comparison)
        let mark ← symbol sign
        let right ← rightOperand rules next braces
        return join (if next = .compare then .comparison else .plain) (mark ++ right)
    | none =>
      if level.rank ≤ Level.assign.rank && startsWithEquals ts then
        let mark ← symbol "="
        let right ← rightOperand rules .assign braces
        return join .plain (mark ++ right)
      else if level.rank ≤ Level.range.rank && startsWith ".." ts then
        let stop ← rangeEnd rules braces
        return some ⟨left.tokens ++ stop, .range, false⟩
      else if startsWithWord "as" ts then
        let mark ← anyWord
        let type ← rules.form (.type false)
        demand !(← looking fun ts => startsWithDot ts || startsWith "?" ts
          || startsWithBracket .square ts || startsWithBracket .round ts)
        return join .plain (mark ++ type)
      else return none

/-- The operand with all operators behind it that bind as tightly as `level`. -/
def operations (left : Written) (level : Level) (braces : Bool) : Reader Written :=
  repeatedly (operation rules · level braces) left

end CommandForge.Declaration.Grammar
