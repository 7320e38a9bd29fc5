import CommandForge.Declaration.Reader
/-!
# Reading forms from tokens

The steps that every rule of the grammar is made of: looking at what stands at the start, taking
single tokens, and lists of forms. A reader gives the tokens that what it has read is written with.
Inside brackets nothing is seen of what stands behind them.
-/

namespace CommandForge.Declaration.Grammar

/-- Reads from the start of a list of tokens. -/
abbrev Reader := StateT (List Token) Option

/-- Reads a form, and gives the tokens it is written with. -/
abbrev Form := Reader (List Token)

/-! ## What stands at the start -/

/-- Nothing is left, or nothing in the brackets. -/
def atEnd : List Token → Bool
  | [] | .closing _ :: _ => true
  | _ => false

/-- The symbol stands at the start; it may go on. -/
def startsWith (symbol : String) (ts : List Token) : Bool :=
  (dropSymbol? symbol.toList ts).isSome

/-- The sign of an equation stands at the start, and no arrow. -/
def startsWithEquals (ts : List Token) : Bool := startsWith "=" ts && !startsWith "=>" ts

/-- The word stands at the start. -/
def startsWithWord (word : String) : List Token → Bool
  | .ident name :: _ => name == word
  | _ => false

/-- One of the words stands at the start. -/
def startsWithOneOf (words : List String) (ts : List Token) : Bool :=
  words.any (startsWithWord · ts)

/-- The bracket stands at the start. -/
def startsWithBracket (b : Bracket) : List Token → Bool
  | .opening c :: _ => c == b
  | _ => false

/-- A lifetime stands at the start. -/
def startsWithLifetime : List Token → Bool
  | .punct '\'' true :: .ident _ :: _ => true
  | _ => false

/-- A word stands at the start. -/
def startsWithIdent : List Token → Bool
  | .ident _ :: _ => true
  | _ => false

/-- A word that is no keyword stands at the start. -/
def startsWithName : List Token → Bool
  | .ident name :: _ => isPlainName name
  | _ => false

/-- A literal stands at the start: truth values are some, and so are negative numbers. -/
def startsWithLiteral : List Token → Bool
  | .literal _ :: _ => true
  | .ident name :: _ => name == "true" || name == "false"
  | .punct '-' _ :: .literal text :: _ => text.toList.head?.any Char.isDigit
  | _ => false

/-- A text stands at the start. -/
def startsWithText : List Token → Bool
  | .literal text :: _ => text.toList.head?.any fun c => c == '"' || c == 'r'
  | _ => false

/-- A single colon stands at the start. -/
def startsWithColon (ts : List Token) : Bool := startsWith ":" ts && !startsWith "::" ts

/-- A single dot stands at the start. -/
def startsWithDot (ts : List Token) : Bool := startsWith "." ts && !startsWith ".." ts

/-- An exclamation mark stands at the start, and no sign of inequality. -/
def startsWithBang (ts : List Token) : Bool := startsWith "!" ts && !startsWith "!=" ts

/-- The bracket stands at the start, perhaps behind a double colon. -/
def startsWithInputs (ts : List Token) : Bool :=
  startsWithBracket .round ts || (dropSymbol? [':', ':'] ts).any (startsWithBracket .round)

/-- Some bracket opens at the start. -/
def startsWithOpening : List Token → Bool
  | .opening _ :: _ => true
  | _ => false

/-- What follows the bracket that closes the first one, inside of which `depth` are open. -/
def dropBracketed (depth : Nat) : List Token → List Token
  | [] => []
  | .opening _ :: ts => dropBracketed (depth + 1) ts
  | .closing _ :: ts => if depth ≤ 1 then ts else dropBracketed (depth - 1) ts
  | _ :: ts => if depth = 0 then ts else dropBracketed depth ts

/-- What follows the first token, for which brackets with all inside them count, and a lifetime. -/
def behind : List Token → List Token
  | [] | .closing _ :: _ => []
  | .opening b :: ts => dropBracketed 0 (.opening b :: ts)
  | .punct '\'' true :: .ident _ :: ts => ts
  | _ :: ts => ts

/-! ## Single tokens -/

/-- What stands at the start. -/
def looking (p : List Token → Bool) : Reader Bool := fun ts => some (p ts, ts)

/-- Reads nothing further unless the condition holds. -/
def demand (b : Bool) : Reader Unit := if b then pure () else failure

/-- The symbol. -/
def symbol (s : String) : Form := fun ts =>
  (dropSymbol? s.toList ts).map fun rest => (symbolTokens s.toList, rest)

/-- The symbol if it stands at the start. -/
def symbol? (s : String) : Form := fun ts =>
  if startsWith s ts then symbol s ts else some ([], ts)

/-- A word that `accept` holds of. -/
def wordWhere (accept : String → Bool) : Form
  | .ident name :: ts => if accept name then some ([.ident name], ts) else none
  | _ => none

/-- The word. -/
def word (w : String) : Form := wordWhere (· == w)

/-- Any word. -/
def anyWord : Form := wordWhere fun _ => true

/-- A word that is no keyword. -/
def name : Form := wordWhere isPlainName

/-- The word if it stands at the start. -/
def word? (w : String) : Form := fun ts =>
  if startsWithWord w ts then anyWord ts else some ([], ts)

/-- A lifetime. -/
def lifetime : Form
  | .punct '\'' true :: .ident name :: ts => some ([.punct '\'' true, .ident name], ts)
  | _ => none

/-- A lifetime if one stands at the start. -/
def lifetime? : Form := fun ts => if startsWithLifetime ts then lifetime ts else some ([], ts)

/-- A literal. -/
def literal : Form := fun ts =>
  if startsWithLiteral ts then
    match ts with
    | .punct '-' _ :: t :: rest => some ([.punct '-' false, t], rest)
    | t :: rest => some ([t], rest)
    | [] => none
  else none

/-- An opening bracket. -/
def opening (b : Bracket) : Form
  | .opening c :: ts => if c = b then some ([.opening b], ts) else none
  | _ => none

/-- A closing bracket. -/
def closing (b : Bracket) : Form
  | .closing c :: ts => if c = b then some ([.closing b], ts) else none
  | _ => none

/-- The form if the start is one for it, and else nothing. -/
def formIf (start : List Token → Bool) (f : Form) : Form := fun ts =>
  if start ts then f ts else some ([], ts)

/-- One form behind the other. -/
def both (f g : Form) : Form := do
  let first ← f
  let second ← g
  return first ++ second

/-- The form inside brackets, all of which it takes up. -/
def inside (b : Bracket) (f : Form) : Form := do
  let left ← opening b
  let inner ← f
  let right ← closing b
  return left ++ inner ++ right

/-- The tokens that have been read since `start` was left, as they stand there. -/
def since (start : List Token) : Form := fun ts => some (start.take (start.length - ts.length), ts)

/-- Brackets with all inside them, as they stand there. -/
def bracketed : Form := fun ts =>
  match ts with
  | .opening _ :: _ => since ts (dropBracketed 0 ts)
  | _ => none

/-! ## Lists -/

/-- Takes steps until one gives nothing, at most `bound` of them. -/
def iterate {α : Type} (step : α → Reader (Option α)) : (bound : Nat) → α → Reader α
  | 0, _ => failure
  | bound + 1, a => do
    match ← step a with
    | some b => iterate step bound b
    | none => return a

/-- Takes steps until one gives nothing. Each step reads a token. -/
def repeatedly {α : Type} (step : α → Reader (Option α)) (a : α) : Reader α := do
  let ts ← get
  iterate step (ts.length + 1) a

/-- An item of a list with the separator behind it, if there is one. -/
structure Entry (α : Type) where
  item : α
  separator : List Token

/-- Items with separators between them, perhaps none, up to where `stop` holds. Behind the last
item a separator may stand. Items are told whether they are the first. -/
def entriesUntil {α : Type} (stop : List Token → Bool) (separator : String)
    (item : Bool → Reader α) : Reader (List (Entry α)) := do
  let entries ← repeatedly (fun (entries : List (Entry α)) => do
    if ← looking stop then return none
    else
      let a ← item entries.isEmpty
      let mark ← if ← looking stop then pure [] else symbol separator
      return some (⟨a, mark⟩ :: entries)) []
  return entries.reverse

/-- Items up to where `stop` holds or no separator stands behind one. -/
def chainUntil {α : Type} (stop : List Token → Bool) (separator : String) (item : Reader α) :
    Reader (List (Entry α)) := do
  let entries ← repeatedly (fun (entries : List (Entry α)) => do
    if (← looking stop) || entries.head?.any (·.separator.isEmpty) then return none
    else
      let a ← item
      let mark ← symbol? separator
      return some (⟨a, mark⟩ :: entries)) []
  return entries.reverse

/-- The tokens of a list. -/
def entryTokens (entries : List (Entry (List Token))) : List Token :=
  entries.flatMap fun e => e.item ++ e.separator

/-- Forms with separators between them up to where `stop` holds. -/
def listUntil (stop : List Token → Bool) (separator : String) (item : Form) : Form :=
  entryTokens <$> entriesUntil stop separator fun _ => item

/-- Forms with commas between them that take up what is left inside the brackets. -/
def commaList (item : Form) : Form := listUntil atEnd "," item

/-- Forms of which further ones are read as long as `more` holds. -/
def whileForm (more : List Token → Bool) (item : Form) : Form :=
  repeatedly (fun ts => do
    if ← looking more then return some (ts ++ (← item))
    else return none) []

/-- Forms one behind the other that take up what is left inside the brackets. -/
def sequence (item : Form) : Form := whileForm (!atEnd ·) item

/-- An item of a list in which lifetimes are written in front of everything else. -/
structure Parameter where
  isLifetime : Bool
  tokens : List Token
  deriving DecidableEq, Repr

/-- Parameters with the lifetimes in front. One that needs a comma in front of it gets one. -/
def ordered (entries : List (Entry Parameter)) : List Token :=
  let write (state : List Token × Bool) (e : Entry Parameter) : List Token × Bool :=
    (state.1 ++ (if state.2 then [] else symbolTokens [',']) ++ e.item.tokens ++ e.separator,
      !e.separator.isEmpty)
  let lead := (entries.filter (·.item.isLifetime)).foldl write ([], true)
  ((entries.filter (!·.item.isLifetime)).foldl write lead).1

end CommandForge.Declaration.Grammar
