import CommandForge.Declaration.Grammar.Bound
/-!
# Types

Paths, sums of bounds, functions, and what is made of other types. Inputs of functions keep what
names they have.
-/

namespace CommandForge.Declaration.Grammar

/-- The type of a function can start here. -/
def startsWithFunction (ts : List Token) : Bool := startsWithOneOf ["fn", "unsafe", "extern"] ts

/-- How a function is called from outside, with the name of the convention if it has one. -/
def convention : Form :=
  formIf (startsWithWord "extern") (both anyWord (formIf startsWithText literal))

/-- A name with a colon stands at the start; it can be `self` with `receives`. -/
def startsWithLabel (receives : Bool) (ts : List Token) : Bool :=
  (startsWithName ts || startsWithWord "_" ts || (receives && startsWithWord "self" ts))
    && startsWithColon (behind ts)

variable (rules : Rules)

/-- An input of a function type. The first one can be what the function is called on. -/
def functionTypeInput (isFirst : Bool) : Form := do
  let marks ← attributes rules
  let start ← get
  let isMutable := isFirst && startsWithWord "mut" start && startsWithWord "self" (behind start)
  let _ ← formIf (fun _ => isMutable) anyWord
  let label ← formIf (startsWithLabel isFirst) (both anyWord (symbol ":"))
  let ofSelf := label.head? == some (.ident "self")
  if !isMutable && (← looking (startsWith "...")) && !ofSelf then
    let dots ← symbol "..."
    let comma ← symbol? ","
    demand (← looking atEnd)
    return marks ++ label ++ dots ++ comma
  else if isMutable && label.isEmpty then
    let _ ← word "self"
    let whole ← since start
    return marks ++ whole
  else if ← looking fun ts => isFirst && !ofSelf && startsWithWord "mut" ts
      && startsWithWord "self" (behind ts) then
    let _ ← anyWord
    let _ ← anyWord
    let whole ← since start
    return marks ++ whole
  else
    let type ← rules.type
    if isMutable then
      let whole ← since start
      return marks ++ whole
    else return marks ++ label ++ type

/-- The type of a function. -/
def functionType : Form := do
  let safety ← word? "unsafe"
  let convention ← convention
  let mark ← word "fn"
  let inputs ← inside .round
    (entryTokens <$> entriesUntil atEnd "," (functionTypeInput rules))
  let output ← output rules false
  return safety ++ convention ++ mark ++ inputs ++ output

/-- A type that starts with a path. The parameters `names` are those it is for. -/
def pathType (names : List Token) (plus : Bool) : Reader Written := do
  let first ← anyPath rules false
  if startsWith "<" first.tokens then return first
  else if ← looking (startsInvocation first.tokens) then invocation first.tokens
  else
    let more ← if plus then furtherBounds rules else pure []
    let tokens := names ++ first.tokens ++ more
    if !more.isEmpty then return ⟨tokens, .plain, false⟩
    else if !names.isEmpty then return ⟨tokens, .bound tokens, false⟩
    else return first

/-- A type in round brackets, a tuple of types, or bounds of which the first is in brackets. -/
def roundType (plus : Bool) : Reader Written := do
  let left ← opening .round
  let strict := whileForm (startsWith "+") (both (symbol "+") (rules.form (.bound false false)))
  if ← looking startsWithLifetime then
    let inner ← boundSum rules false false true
    let right ← closing .round
    return ⟨left ++ inner ++ right, .plain, false⟩
  else if ← looking (startsWith "?") then
    let inner ← Written.tokens <$> traitBound rules false
    let right ← closing .round
    let more ← strict
    let kind := if more.isEmpty then .bound inner else .plain
    return ⟨left ++ inner ++ right ++ more, kind, false⟩
  else
    let entries ← entriesUntil atEnd "," fun _ => rules (.type true)
    let right ← closing .round
    let bound? := match entries with
      | [⟨type, []⟩] =>
        match type.kind with
        | .name | .path => if startsWith "<" type.tokens then none else some type.tokens
        | .bound inner => some inner
        | _ => none
      | _ => none
    let tokens := entries.flatMap fun e => e.item.tokens ++ e.separator
    match bound? with
    | some inner =>
      if ← looking fun ts => plus && startsWith "+" ts then
        let more ← strict
        return ⟨left ++ inner ++ right ++ more, .plain, false⟩
      else return ⟨left ++ tokens ++ right, .plain, false⟩
    | none => return ⟨left ++ tokens ++ right, .plain, false⟩

/-- A list of a type, or an array of one with its length. -/
def squareType : Form := inside .square do
  let item ← rules.type
  let length ← formIf (startsWith ";") (both (symbol ";") rules.value)
  return item ++ length

/-- Some type with a trait, which is not known before the program runs. -/
def objectType (plus : Bool) : Form := do
  let start ← get
  let mark ← word "dyn"
  let star ← symbol? "*"
  let bounds ← boundSum rules false false plus
  if star.isEmpty then return mark ++ bounds else since start

/-- A type; with `plus`, it can be the sum of a path and bounds. -/
def typeForm (plus : Bool) : Reader Written := do
  let plain (form : Form) : Reader Written := (⟨·, .plain, false⟩) <$> form
  let target := rules.form (.type false)
  let ts ← get
  if startsWithWord "for" ts then
    let names ← binder rules
    let ts ← get
    if startsWithFunction ts then plain ((names ++ ·) <$> functionType rules)
    else
      demand (startsWithModule ts)
      pathType rules names plus
  else if startsWithBracket .round ts then roundType rules plus
  else if startsWithFunction ts then plain (functionType rules)
  else if startsWithPath ts then pathType rules [] plus
  else if startsWithWord "dyn" ts then plain (objectType rules plus)
  else if startsWithWord "impl" ts then plain (both anyWord (boundSum rules true true plus))
  else if startsWithLifetime ts then plain (boundSum rules false false true)
  else if startsWithWord "_" ts then plain anyWord
  else if startsWithBracket .square ts then plain (squareType rules)
  else if startsWith "*" ts then
    plain (both (symbol "*") (both (wordWhere fun w => w == "const" || w == "mut") target))
  else if startsWith "&" ts then
    plain (both (symbol "&") (both lifetime? (both (word? "mut") target)))
  else plain (symbol "!")

end CommandForge.Declaration.Grammar
