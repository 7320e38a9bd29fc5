import CommandForge.Declaration.Grammar.Operator
/-!
# Operands

What stands between operators: literals, paths, brackets, blocks and what starts with a word of its
own, each with the signs in front of it and what is taken of it behind.
-/

namespace CommandForge.Declaration.Grammar

/-- Two values with a dot between them are one token if both are numbers; these are the members it
stands for, and whether a further dot follows. -/
def memberNumbers? (text : List Char) : Option (List Token × Bool) := do
  let isOpen := text.getLast? == some '.'
  let parts := (if isOpen then text.dropLast else text).splitOn '.'
  let indices ← parts.mapM index?
  return (indices.intersperse (.punct '.' false), isOpen)

/-- Words in front of a closure stand at the start. -/
def startsWithClosure (ts : List Token) : Bool :=
  let next := behind ts
  startsWith "|" ts || startsWithOneOf ["move", "static"] ts
    || (startsWithWord "for" ts && startsWithParameters next)
    || (startsWithWord "const" ts && !startsWithBracket .curly next)
    || (startsWithWord "async" ts && (startsWith "|" next || startsWithWord "move" next))

/-- A block that gives its value later stands at the start. -/
def startsWithAsyncBlock (ts : List Token) : Bool :=
  let next := behind ts
  startsWithWord "async" ts && (startsWithBracket .curly next
    || (startsWithWord "move" next && startsWithBracket .curly (behind next)))

variable (rules : Rules)

/-! ## What is taken of a value -/

/-- Values in round brackets. -/
def calledWith : Form := inside .round (commaList rules.value)

/-- A member behind its dot, or a call of it. -/
def memberAccess : Form := do
  if ← looking (startsWithWord "await") then anyWord
  else if ← looking startsWithName then
    let name ← anyWord
    let arguments ← formIf (startsWith "::") rules.turbofish
    if !arguments.isEmpty || (← looking (startsWithBracket .round)) then
      let inner ← calledWith rules
      return name ++ arguments ++ inner
    else return name
  else memberNumber

/-- A dot with the members behind it. -/
def dotAccess : Form := do
  let dot ← symbol "."
  match ← get with
  | .literal text :: rest =>
    match memberNumbers? text.toList with
    | none => failure
    | some (numbers, isOpen) =>
      set rest
      if isOpen then
        let more ← memberAccess rules
        return dot ++ numbers ++ symbolTokens ['.'] ++ more
      else return dot ++ numbers
  | _ =>
    let more ← memberAccess rules
    return dot ++ more

/-- A value with all that is taken of it. -/
def accesses (first : Written) : Reader Written :=
  repeatedly (fun (value : Written) => do
    let ts ← get
    let step (form : Form) : Reader (Option Written) :=
      (fun more => some ⟨value.tokens ++ more, .plain, false⟩) <$> form
    if startsWithBracket .round ts then step (calledWith rules)
    else if startsWithBracket .square ts then step (inside .square rules.value)
    else if value.kind = .range then return none
    else if startsWithDot ts then step (dotAccess rules)
    else if startsWith "?" ts then step (symbol "?")
    else return none) first

/-! ## Blocks -/

/-- A loop, or a block with a name. -/
def loop : Form := do
  let ts ← get
  if startsWithWord "while" ts then
    let mark ← anyWord
    let condition ← rules.condition
    let body ← attributedBlock rules
    return mark ++ condition ++ body
  else if startsWithWord "for" ts then
    let mark ← anyWord
    let pattern ← Written.tokens <$> alternatives rules
    let middle ← word "in"
    let source ← rules.condition
    let body ← attributedBlock rules
    return mark ++ pattern ++ middle ++ source ++ body
  else both (word? "loop") (attributedBlock rules)

/-- A loop or a block with a name in front. -/
def namedLoop : Form := do
  let name ← lifetime
  let mark ← symbol ":"
  let body ← loop rules
  return name ++ mark ++ body

/-- A case of a match. A comma behind it is needed unless it is the last one or ends with a
block. -/
def matchArm : Form := do
  let marks ← attributes rules
  let pattern ← Written.tokens <$> alternatives rules
  let guard ← formIf (startsWithWord "if") (both anyWord rules.value)
  let arrow ← symbol "=>"
  let body ← rules .statementValue
  let comma ← if body.kind = .block || (← looking atEnd) then symbol? "," else symbol ","
  return marks ++ pattern ++ guard ++ arrow ++ body.tokens ++ comma

/-- A match with its cases. -/
def matchForm : Form := do
  let mark ← word "match"
  let value ← rules.condition
  let arms ← inside .curly (both (innerAttributes rules) (sequence (matchArm rules)))
  return mark ++ value ++ arms

/-- A condition with what depends on it. -/
def conditional : Form := do
  let mark ← word "if"
  let condition ← rules.condition
  let body ← rules.block
  let other ← formIf (startsWithWord "else") do
    let mark ← anyWord
    let inner ← if ← looking (startsWithWord "if") then rules.form .conditional else rules.block
    return mark ++ inner
  return mark ++ condition ++ body ++ other

/-- A form that ends in curly brackets and is a statement by itself stands at the start. -/
def startsWithBlock (ts : List Token) : Bool :=
  startsWithBracket .curly ts || startsWithLifetime ts
    || startsWithOneOf ["if", "while", "loop", "match", "unsafe"] ts
    || (startsWithWord "for" ts && !startsWithParameters (behind ts))
    || (startsWithOneOf ["try", "const"] ts && startsWithBracket .curly (behind ts))

/-- A form that ends in curly brackets and is a statement by itself. -/
def blockForm : Reader Written := do
  let ts ← get
  let tokens ←
    if startsWithWord "if" ts then conditional rules
    else if startsWithOneOf ["while", "for", "loop"] ts then loop rules
    else if startsWithWord "match" ts then matchForm rules
    else if startsWithLifetime ts then namedLoop rules
    else if startsWithWord "try" ts then both anyWord rules.block
    else if startsWithOneOf ["unsafe", "const"] ts then both anyWord (attributedBlock rules)
    else attributedBlock rules
  return ⟨tokens, .block, false⟩

/-! ## Other operands -/

/-- An input of a closure. -/
def closureInput : Form := do
  let marks ← attributes rules
  let pattern ← rules .pattern
  if ← looking (startsWith ":") then
    let colon ← symbol ":"
    let type ← rules.type
    return marks ++ pattern.tokens ++ colon ++ type
  else return (if pattern.kind = .verbatim then [] else marks) ++ pattern.tokens

/-- A function without a name. One that says what it gives has a block. -/
def closure (braces : Bool) : Form := do
  let names ← formIf (startsWithWord "for") (binder rules)
  let stage ← word? "const"
  let place ← word? "static"
  let time ← word? "async"
  let taking ← word? "move"
  let left ← symbol "|"
  let inputs ← listUntil (startsWith "|") "," (closureInput rules)
  let right ← symbol "|"
  let body ← if ← looking (startsWith "->") then both (output rules true) rules.block
    else rules.form (.value braces)
  return names ++ stage ++ place ++ time ++ taking ++ left ++ inputs ++ right ++ body

/-- A field of a struct with its value; the value can be left out where it has the field's name. -/
def fieldValue : Form := do
  let marks ← attributes rules
  let named ← looking startsWithName
  let name ← member
  if !named || (← looking (startsWith ":")) then
    let colon ← symbol ":"
    let value ← rules.value
    return marks ++ name ++ colon ++ value
  else return marks ++ name

/-- The fields of a struct in curly brackets, with two dots for those that are left. -/
def fieldValues : Form := inside .curly <| entryTokens <$> entriesUntil atEnd "," fun _ => do
  if ← looking (startsWith "..") then
    let dots ← symbol ".."
    let rest ← formIf (!atEnd ·) rules.value
    demand (← looking atEnd)
    return dots ++ rest
  else fieldValue rules

/-- A path, a struct with its fields, or a macro call. -/
def pathOperand (braces : Bool) : Reader Written := do
  let first ← anyPath rules true
  let ts ← get
  if startsInvocation first.tokens ts then invocation first.tokens
  else if braces && startsWithBracket .curly ts then
    let fields ← fieldValues rules
    return ⟨first.tokens ++ fields, .plain, false⟩
  else return ⟨first.tokens, .plain, false⟩

/-- Values in square brackets, or one with how often it is repeated. -/
def squareOperand : Form := inside .square do
  let entries ← chainUntil atEnd "," rules.value
  match entries with
  | [⟨first, []⟩] =>
    let count ← formIf (startsWith ";") (both (symbol ";") rules.value)
    return first ++ count
  | _ => return entryTokens entries

/-- A jump out of a loop or a block, with its name and a value. -/
def breakOperand (braces : Bool) : Form := do
  let mark ← word "break"
  let name ← lifetime?
  demand !(!name.isEmpty && (← looking (startsWith ":")))
  let value ← formIf
    (fun ts => startsWithValue ts && (braces || !startsWithBracket .curly ts)) rules.value
  return mark ++ name ++ value

/-- A pattern that a value has to match. -/
def letOperand (braces : Bool) : Form := do
  let mark ← word "let"
  let pattern ← Written.tokens <$> alternatives rules
  let sign ← symbol "="
  let first ← rules (.operand braces)
  let value ← rules.form (.operations first .compare braces)
  return mark ++ pattern ++ sign ++ value

/-- A call of something built in, which is kept as it stands. -/
def builtin : Reader Written := do
  let start ← get
  let _ ← anyWord
  let _ ← symbol "#"
  let _ ← name
  demand (← looking (startsWithBracket .round))
  let _ ← bracketed
  let tokens ← since start
  return ⟨tokens, .verbatim, true⟩

/-- A tail call, which is kept as it stands. -/
def becomeOperand : Reader Written := do
  let start ← get
  let _ ← anyWord
  let _ ← rules.value
  let tokens ← since start
  return ⟨tokens, .verbatim, true⟩

/-- An operand without signs in front of it and what is taken of it behind. -/
def atom (braces : Bool) : Reader Written := do
  let plain (form : Form) : Reader Written := (⟨·, .plain, false⟩) <$> form
  let ts ← get
  let next := behind ts
  if startsWithLiteral ts then plain literal
  else if startsWithAsyncBlock ts then
    plain (both anyWord (both (word? "move") rules.block))
  else if startsWithWord "try" ts && startsWithBracket .curly next then blockForm rules
  else if startsWithClosure ts then plain (closure rules braces)
  else if startsWithWord "builtin" ts && startsWith "#" next then builtin
  else if startsWithPath ts
      || (startsWithWord "try" ts && (startsWith "!" next || startsWith "::" next)) then
    pathOperand rules braces
  else if startsWithBracket .round ts then plain (calledWith rules)
  else if startsWithWord "break" ts then plain (breakOperand rules braces)
  else if startsWithWord "continue" ts then plain (both anyWord lifetime?)
  else if startsWithOneOf ["return", "yield"] ts then
    plain (both anyWord (formIf startsWithValue rules.value))
  else if startsWithWord "become" ts then becomeOperand rules
  else if startsWithBracket .square ts then plain (squareOperand rules)
  else if startsWithWord "let" ts then plain (letOperand rules braces)
  else if startsWithBlock ts then blockForm rules
  else if startsWith ".." ts then
    let range ← rangeEnd rules braces
    return ⟨range, .range, false⟩
  else plain (word "_")

/-- The sign of a reference, which may be a raw one. -/
def referenceSign : Form := do
  let mark ← symbol "&"
  let ts ← get
  if startsWithWord "raw" ts && startsWithOneOf ["mut", "const"] (behind ts) then
    let raw ← anyWord
    let kind ← anyWord
    return mark ++ raw ++ kind
  else
    let kind ← word? "mut"
    return mark ++ kind

/-- An operand with the attributes and signs in front of it. -/
def operand (braces : Bool) : Reader Written := do
  let start ← get
  let marks ← attributes rules
  let ts ← get
  let signed (sign : Form) : Reader Written := do
    let sign ← sign
    let inner ← rules.form (.operand braces)
    return ⟨marks ++ sign ++ inner, .plain, false⟩
  if startsWith "&" ts then signed referenceSign
  else if startsWith "*" ts then signed (symbol "*")
  else if startsWith "!" ts then signed (symbol "!")
  else if startsWith "-" ts then signed (symbol "-")
  else
    let first ← atom rules braces
    let whole ← accesses rules first
    if whole.kind = .verbatim then
      let tokens ← since start
      return { whole with tokens }
    else
      demand (marks.isEmpty || whole.kind != .range)
      return { whole with tokens := marks ++ whole.tokens }

end CommandForge.Declaration.Grammar
