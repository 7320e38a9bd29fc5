import CommandForge.Declaration.Grammar.Operand
/-!
# Functions

The head of a function, its body, and who can see what is declared.
-/

namespace CommandForge.Declaration.Grammar

/-- The tokens without the word, if they start with it. -/
def dropWord (w : String) (ts : List Token) : List Token :=
  if startsWithWord w ts then ts.tail else ts

/-- The head of a function stands at the start. With `safe`, it can say that it is safe. -/
def startsWithHead (safe : Bool) (ts : List Token) : Bool :=
  let ts := dropWord "async" (dropWord "const" ts)
  let ts := if safe && startsWithWord "safe" ts then ts.tail else dropWord "unsafe" ts
  let ts := if startsWithWord "extern" ts then
      if startsWithText ts.tail then ts.tail.tail else ts.tail
    else ts
  startsWithWord "fn" ts

/-- Who can see what is declared. -/
def visibility : Form := formIf (startsWithWord "pub") do
  let mark ← anyWord
  let ts ← get
  match ts with
  | .opening .round :: .ident "in" :: _ =>
    let scope ← inside .round (both anyWord modulePath)
    return mark ++ scope
  | .opening .round :: .ident scope :: .closing .round :: _ =>
    if ["crate", "self", "super"].contains scope then
      let scope ← inside .round anyWord
      return mark ++ scope
    else return mark
  | _ => return mark

/-- What a function is called on stands at the start. The word for it can also start a path, or name
what stands for any number of inputs. -/
def startsWithReceiver (ts : List Token) : Bool :=
  let isReference := startsWith "&" ts
  let lead := if isReference then ts.tail else ts
  let rest := dropWord "mut" (if isReference && startsWithLifetime lead then behind lead else lead)
  let next := rest.tail
  startsWithWord "self" rest && (isReference
    || !(startsWith "::" next || (startsWith ":" next && startsWith "..." next.tail)))

variable (rules : Rules)

/-! ## Inputs -/

/-- What a function is called on. -/
def receiver : Form := do
  let mark ← formIf (startsWith "&") (both (symbol "&") lifetime?)
  let kind ← word? "mut"
  let name ← word "self"
  let type ← formIf (fun ts => mark.isEmpty && startsWith ":" ts) (both (symbol ":") rules.type)
  return mark ++ kind ++ name ++ type

/-- Any number of further inputs, which are the last ones. -/
def furtherInputs : Form := do
  let dots ← symbol "..."
  let comma ← formIf (!atEnd ·) (symbol ",")
  demand (← looking atEnd)
  return dots ++ comma

/-- An input of a function. What it is called on stands first; a type alone gets a blank name. -/
def functionInput (isFirst : Bool) : Form := do
  let marks ← attributes rules
  let ts ← get
  if startsWithReceiver ts then
    demand isFirst
    let tokens ← receiver rules
    return marks ++ tokens
  else if startsWith "..." ts then
    let dots ← furtherInputs
    return marks ++ dots
  else if startsWithName ts && startsWith "<" (behind ts) then
    let type ← rules.type
    return marks ++ [.ident "_"] ++ symbolTokens [':'] ++ type
  else
    let pattern ← rules.form .pattern
    let colon ← symbol ":"
    let type ← if ← looking (startsWith "...") then furtherInputs else rules.type
    return marks ++ pattern ++ colon ++ type

/-! ## Functions -/

/-- The head of a function, and whether it says that it is safe. -/
def functionHead (safe : Bool) : Reader (List Token × Bool) := do
  let stage ← word? "const"
  let time ← word? "async"
  let danger ← word? "unsafe"
  let isSafe ← looking fun ts => safe && danger.isEmpty && startsWithWord "safe" ts
  let _ ← formIf (fun _ => isSafe) anyWord
  let convention ← convention
  let mark ← word "fn"
  let name ← name
  let parameters ← parameters rules
  let inputs ← inside .round (entryTokens <$> entriesUntil atEnd "," (functionInput rules))
  let output ← output rules true
  let conditions ← predicates rules
  return (stage ++ time ++ danger ++ convention ++ mark ++ name ++ parameters ++ inputs ++ output
    ++ conditions, isSafe)

/-- The form, unless it has to be kept as it stands: then nothing. -/
abbrev LooseForm := Reader (Option (List Token))

/-- The tokens if the condition holds. -/
def tokensIf (condition : Bool) (tokens : List Token) : Option (List Token) :=
  if condition then some tokens else none

/-- A form behind its attributes `marks`; one that has to be kept stands there since `start`. -/
def marked (start marks : List Token) (form : LooseForm) : Form := do
  match ← form with
  | some tokens => return marks ++ tokens
  | none => since start

end CommandForge.Declaration.Grammar
