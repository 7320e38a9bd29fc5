import CommandForge.Declaration.Grammar.Item
/-!
# Statements

What stands inside curly brackets: declarations of names, items, and values. A value that does not
end with a block has a semicolon behind it, unless it is the last one.
-/

namespace CommandForge.Declaration.Grammar

/-- An item stands at the start, and no value. -/
def startsWithItem (ts : List Token) : Bool :=
  let next := behind ts
  let third := behind next
  startsWithOneOf ["pub", "extern", "use", "fn", "mod", "type", "struct", "enum", "trait", "impl",
      "macro"] ts
    || (startsWithWord "crate" ts && !startsWith "::" next)
    || (startsWithWord "static" ts && (startsWithWord "mut" next || startsWithName next))
    || (startsWithWord "const" ts && !(startsWithBracket .curly next || startsWith "|" next
      || startsWithOneOf ["static", "move"] next
      || (startsWithWord "async" next && !startsWithOneOf ["unsafe", "extern", "fn"] third)))
    || (startsWithWord "unsafe" ts && !startsWithBracket .curly next)
    || (startsWithWord "async" ts && startsWithOneOf ["unsafe", "extern", "fn"] next)
    || startsWithUnion ts || startsWithTrait ts
    || (startsWithWord "default" ts && startsWithOneOf ["unsafe", "impl"] next)

/-- What follows the path of a macro call and its exclamation mark. -/
def behindInvocation? (ts : List Token) : Option (List Token) :=
  match modulePath ts with
  | some (_, rest) => if startsWith "!" rest then some (behind rest) else none
  | none => none

variable (rules : Rules)

/-- A value behind attributes. They belong to what stands first in it; a range with attributes gets
brackets. -/
def withMarks (marks : List Token) (value : Written) : Written :=
  if marks.isEmpty || value.losesAttributes then value
  else if value.kind = .range then
    { value with tokens := marks ++ [.opening .round] ++ value.tokens ++ [.closing .round] }
  else { value with tokens := marks ++ value.tokens }

/-- A value where a statement could stand: one that ends with a block goes on only with what is
taken of it. -/
def statementValue : Reader Written := do
  let marks ← attributes rules
  if ← looking startsWithBlock then
    let first ← blockForm rules
    if ← looking fun ts => startsWithDot ts || startsWith "?" ts then
      let whole ← accesses rules first
      rules (.operations (withMarks marks whole) .jump true)
    else return withMarks marks first
  else
    let first ← rules (.operand true)
    rules (.operations (withMarks marks first) .jump true)

/-- The declaration of a name, with what is done if its pattern does not match. -/
def letStatement : Form := do
  let mark ← word "let"
  let pattern ← rules.form .pattern
  let type ← formIf (startsWith ":") (both (symbol ":") rules.type)
  let value ← assignedValue rules
  let endsCurly := value.getLast? == some (.closing .curly)
  let other ← formIf (fun ts => !value.isEmpty && !endsCurly && startsWithWord "else" ts)
    (both anyWord rules.block)
  let stop ← symbol ";"
  return mark ++ pattern ++ type ++ value ++ other ++ stop

/-- A statement, and whether it has to be the last one. -/
def statement : Reader (List Token × Bool) := do
  let start ← get
  let marks ← attributes rules
  let ts ← get
  let inner := (behindInvocation? ts).getD []
  let named := startsWithName inner || startsWithWord "try" inner
  let behindInner := behind inner
  if startsWithBracket .curly inner
      && !(startsWithDot behindInner || startsWith "?" behindInner) then
    let path ← modulePath
    let whole ← invocation path
    let stop ← symbol? ";"
    return (marks ++ whole.tokens ++ stop, false)
  else if startsWithWord "let" ts then
    let tokens ← letStatement rules
    return (marks ++ tokens, false)
  else if named || startsWithItem ts then
    let tokens ← itemBehind rules start marks
    return (tokens, false)
  else
    let value ← rules .statementValue
    let stop ← symbol? ";"
    let isWhole := value.kind = .block || value.kind = .invocation true
    return ((withMarks marks value).tokens ++ stop, stop.isEmpty && !isWhole)

/-- The statements inside curly brackets. -/
def statements : Form :=
  Prod.fst <$> repeatedly (fun (written : List Token × Bool) => do
    if ← looking atEnd then return none
    else
      demand !written.2
      if ← looking (startsWith ";") then
        let mark ← symbol ";"
        return some (written.1 ++ mark, false)
      else
        let (tokens, isLast) ← statement rules
        return some (written.1 ++ tokens, isLast)) ([], false)

end CommandForge.Declaration.Grammar
