import CommandForge.Declaration.Grammar.Type
/-!
# Patterns

What a value is taken apart by: names, literals, ranges, and the parts of tuples, lists and structs.
-/

namespace CommandForge.Declaration.Grammar

/-- The bars of a pattern with alternatives stand at the start, and no operator. -/
def startsWithBar (ts : List Token) : Bool :=
  startsWith "|" ts && !startsWith "||" ts && !startsWith "|=" ts

/-- A whole number below 2^32 in the base, without a word behind it. -/
def indexIn? (base : Nat) (digits : List Char) : Option Nat := do
  let digits := digits.filter (· ≠ '_')
  if digits.isEmpty then none
  else
    let n ← digits.foldlM (fun n c =>
      if isHexDigit c && hexValue c < base then some (base * n + hexValue c) else none) 0
    if n < Nat.pow 2 32 then some n else none

/-- The token of a member that is called by its number. -/
def index? (text : List Char) : Option Token :=
  (match text with
    | '0' :: 'x' :: cs => indexIn? 16 cs
    | '0' :: 'o' :: cs => indexIn? 8 cs
    | '0' :: 'b' :: cs => indexIn? 2 cs
    | cs => if cs.head?.any Char.isDigit then indexIn? 10 cs else none).map fun n =>
    .literal (toString n)

/-- The number of a member. -/
def memberNumber : Form
  | .literal text :: ts => (index? text.toList).map fun t => ([t], ts)
  | _ => none

/-- The name or the number of a member. -/
def member : Form := do
  if ← looking startsWithName then anyWord else memberNumber

variable (rules : Rules)

/-- Alternatives with bars between them, and perhaps one in front. -/
def alternatives : Reader Written := do
  let lead ← symbol? "|"
  let first ← rules .pattern
  let more ← whileForm startsWithBar (both (symbol "|") (rules.form .pattern))
  if lead.isEmpty && more.isEmpty then return first
  else return ⟨lead ++ first.tokens ++ more, .plain, false⟩

/-- The end of a range, perhaps none. -/
def rangeBound : Form := do
  let ts ← get
  if atEnd ts || startsWith "|" ts || startsWith "=" ts || startsWithColon ts || startsWith "," ts
      || startsWith ";" ts || startsWithWord "if" ts then return []
  else if startsWithLiteral ts then literal
  else if startsWithPath ts then Written.tokens <$> anyPath rules true
  else both (word "const") (attributedBlock rules)

/-- A range behind its start. Three dots are written as a range with its end. -/
def rangeBehind (start : List Token) : Reader Written := do
  let ts ← get
  let isClosed := startsWith "..=" ts || startsWith "..." ts
  let dots ← if startsWith "..=" ts then symbol "..="
    else if startsWith "..." ts then do
      let _ ← symbol "..."
      pure (symbolTokens ['.', '.', '='])
    else symbol ".."
  let stop ← rangeBound rules
  demand !(isClosed && stop.isEmpty)
  return ⟨start ++ dots ++ stop, if stop.isEmpty then .openRange else .plain, false⟩

/-- A range without a start, or two dots for all that is left. -/
def rangeWithoutStart : Reader Written := do
  let isClosed ← looking (startsWith "..=")
  let dots ← if isClosed then symbol "..=" else symbol ".."
  let stop ← rangeBound rules
  demand !(isClosed && stop.isEmpty)
  return ⟨dots ++ stop, if stop.isEmpty then .rest else .openRange, false⟩

/-- A field of a struct. -/
def fieldPattern : Form := do
  let start ← get
  let boxed ← word? "box"
  let marks ← both (word? "ref") (word? "mut")
  if boxed.isEmpty && marks.isEmpty then
    let named ← looking startsWithName
    let name ← member
    if !named || (← looking (startsWith ":")) then
      let colon ← symbol ":"
      let inner ← alternatives rules
      return name ++ colon ++ inner.tokens
    else return name
  else
    let name ← name
    if boxed.isEmpty then return marks ++ name else since start

/-- The fields of a struct in curly brackets, with two dots for those that are left. -/
def fieldPatterns : Form := inside .curly <| entryTokens <$> entriesUntil atEnd "," fun _ => do
  let marks ← attributes rules
  if ← looking (startsWith "..") then
    let dots ← symbol ".."
    demand (← looking atEnd)
    return marks ++ dots
  else
    let field ← fieldPattern rules
    return marks ++ field

/-- A pattern that starts with a path. -/
def pathPattern : Reader Written := do
  let first ← anyPath rules true
  let ts ← get
  if startsInvocation first.tokens ts then invocation first.tokens
  else if startsWithBracket .curly ts then
    let fields ← fieldPatterns rules
    return ⟨first.tokens ++ fields, .plain, false⟩
  else if startsWithBracket .round ts then
    let parts ← inside .round (commaList (Written.tokens <$> alternatives rules))
    return ⟨first.tokens ++ parts, .plain, false⟩
  else if startsWith ".." ts then rangeBehind rules first.tokens
  else return ⟨first.tokens, .plain, false⟩

/-- A name that is given to what is matched, perhaps by a further pattern. -/
def namePattern : Form := do
  let marks ← both (word? "ref") (word? "mut")
  let name ← wordWhere fun w => isPlainName w || w == "self"
  let inner ← formIf (startsWith "@") (both (symbol "@") (rules.form .pattern))
  return marks ++ name ++ inner

/-- Patterns in square brackets. A range that is open at one side does not stand there. -/
def squarePattern : Form := inside .square <| commaList do
  let inner ← alternatives rules
  demand (inner.kind != .openRange)
  return inner.tokens

/-- A path stands at the start of a pattern, and not only a name. -/
def startsWithPathPattern (ts : List Token) : Bool :=
  let next := behind ts
  (startsWithName ts && (startsWith "::" next || startsWith "!" next || startsWith ".." next
      || startsWithBracket .curly next || startsWithBracket .round next))
    || (startsWithWord "self" ts && startsWith "::" next)
    || startsWith "::" ts || startsWith "<" ts || startsWithOneOf ["Self", "super", "crate"] ts

/-- A pattern without alternatives. -/
def patternForm : Reader Written := do
  let plain (form : Form) : Reader Written := (⟨·, .plain, false⟩) <$> form
  let ts ← get
  if startsWithPathPattern ts then pathPattern rules
  else if startsWithWord "_" ts then plain anyWord
  else if startsWithWord "box" ts then
    let _ ← anyWord
    let _ ← rules .pattern
    let tokens ← since ts
    return ⟨tokens, .verbatim, false⟩
  else if startsWith "-" ts || startsWithLiteral ts || startsWithWord "const" ts then
    let start ← rangeBound rules
    if ← looking (startsWith "..") then rangeBehind rules start else return ⟨start, .plain, false⟩
  else if startsWithOneOf ["ref", "mut", "self"] ts || startsWithName ts then
    plain (namePattern rules)
  else if startsWith "&" ts then
    plain (both (symbol "&") (both (word? "mut") (rules.form .pattern)))
  else if startsWithBracket .round ts then
    plain (inside .round (commaList (Written.tokens <$> alternatives rules)))
  else if startsWithBracket .square ts then plain (squarePattern rules)
  else
    demand !(startsWith "..." ts)
    rangeWithoutStart rules

end CommandForge.Declaration.Grammar
