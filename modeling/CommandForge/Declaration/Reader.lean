import CommandForge.Declaration.Literal
import CommandForge.Text.Blank
import CommandForge.Text.Quoted
/-!
# Reading tokens

The tokens of a text, with blanks and comments between them. A comment that documents something
stands for an attribute with its text.
-/

namespace CommandForge.Declaration

/-- The character separates tokens only. -/
def isSeparator (c : Char) : Bool :=
  Text.isBlank c || c.toNat == 0x200E || c.toNat == 0x200F

/-- What follows a comment between slashes and asterisks, inside of which `depth` are open. -/
def skipBlockComment (depth : Nat) : List Char → Option (List Char)
  | [] => none
  | '/' :: '*' :: cs => skipBlockComment (depth + 1) cs
  | '*' :: '/' :: cs => if depth = 0 then some cs else skipBlockComment (depth - 1) cs
  | _ :: cs => skipBlockComment depth cs

/-- What follows the comment at the start, unless it documents something. -/
def skipComment? (cs : List Char) : Option (List Char) :=
  match cs with
  | '/' :: '/' :: '!' :: _ => none
  | '/' :: '/' :: '/' :: '/' :: rest => some (rest.dropWhile (· ≠ '\n'))
  | '/' :: '/' :: '/' :: _ => none
  | '/' :: '/' :: rest => some (rest.dropWhile (· ≠ '\n'))
  | '/' :: '*' :: '*' :: '/' :: rest => some rest
  | '/' :: '*' :: '!' :: _ => none
  | '/' :: '*' :: '*' :: '*' :: rest => skipBlockComment 0 ('*' :: '*' :: rest)
  | '/' :: '*' :: '*' :: _ => none
  | '/' :: '*' :: rest => skipBlockComment 0 rest
  | _ => none

/-- What follows the blanks and comments at the start. Each of them takes at least one character,
which bounds the steps. -/
def skipSeparators : Nat → List Char → List Char
  | 0, cs => cs
  | steps + 1, cs =>
    let cs := cs.dropWhile isSeparator
    match skipComment? cs with
    | some rest => skipSeparators steps rest
    | none => cs

/-! ## Comments that document something -/

/-- The rest of a line, and what follows it. -/
def readLine : List Char → List Char × List Char
  | [] => ([], [])
  | '\n' :: cs => ([], '\n' :: cs)
  | '\r' :: '\n' :: cs => ([], '\n' :: cs)
  | c :: cs => let (line, rest) := readLine cs; (c :: line, rest)

/-- What stands in the comment at the start, whether it is about what it stands in, and what
follows it. -/
def readDocumentation (cs : List Char) : Option (List Char × Bool × List Char) :=
  let block (isInner : Bool) (body : List Char) :=
    (skipBlockComment 0 body).map fun rest =>
      ((body.take (body.length - rest.length - 2)).drop 1, isInner, rest)
  match cs with
  | '/' :: '/' :: '!' :: rest => let (line, rest) := readLine rest; some (line, true, rest)
  | '/' :: '/' :: '/' :: '/' :: _ => none
  | '/' :: '/' :: '/' :: rest => let (line, rest) := readLine rest; some (line, false, rest)
  | '/' :: '*' :: '!' :: rest => block true ('!' :: rest)
  | '/' :: '*' :: '*' :: '*' :: _ => none
  | '/' :: '*' :: '*' :: rest => block false ('*' :: rest)
  | _ => none

/-- Every carriage return ends a line together with a line feed. -/
def hasWholeLines : List Char → Bool
  | [] => true
  | '\r' :: '\n' :: cs => hasWholeLines cs
  | c :: cs => c != '\r' && hasWholeLines cs

/-- A text as it is written between quotes. An octal digit behind a null character would be taken
for a part of it. -/
def escapedText : List Char → List Char
  | [] => []
  | c :: cs =>
    (if c = '\x00' ∧ cs.head?.any fun d => '0' ≤ d && d ≤ '7' then ['\\', 'x', '0', '0']
      else Text.quoteChar '"' c) ++ escapedText cs

/-- The attribute that a comment stands for. -/
def documentationTokens (text : List Char) (isInner : Bool) : List Token :=
  symbolTokens ['#'] ++ (if isInner then symbolTokens ['!'] else [])
    ++ [.opening .square, .ident "doc"] ++ symbolTokens ['=']
    ++ [.literal (String.ofList ('"' :: escapedText text ++ ['"'])), .closing .square]

/-- The attribute that the comment at the start stands for, and what follows it. -/
def readDocTokens (cs : List Char) : Option (List Token × List Char) :=
  match readDocumentation cs with
  | some (text, isInner, rest) =>
    if hasWholeLines text then some (documentationTokens text isInner, rest) else none
  | none => none

/-! ## Single tokens -/

/-- The character that a symbol has at the start; a comment does not start with one. -/
def symbolChar? : List Char → Option Char
  | '/' :: '/' :: _ | '/' :: '*' :: _ => none
  | c :: _ => if "~!@#$%^&*-=+|;:,<.>/?'".toList.contains c then some c else none
  | [] => none

/-- The character of a symbol at the start, and what follows it. An apostrophe goes with the name
behind it. -/
def readSymbolChar (cs : List Char) : Option (Token × List Char) :=
  match symbolChar? cs, cs with
  | some '\'', _ :: rest =>
    match readIdent rest with
    | none => none
    | some (name, behind) =>
      if behind.head? = some '\'' ∨ (behind.head? = some '#' ∧ !name.startsWith "r#") then none
      else some (.punct '\'' true, rest)
  | some c, _ :: rest => some (.punct c (symbolChar? rest).isSome, rest)
  | _, _ => none

/-- What a literal starts with that is no identifier. -/
def literalStarts : List (List Char) := [
  ['r', '"'], ['r', '#', '"'], ['r', '#', '#'], ['b', '"'], ['b', '\''], ['b', 'r', '"'],
  ['b', 'r', '#'], ['c', '"'], ['c', 'r', '"'], ['c', 'r', '#']]

/-- The identifier at the start, and what follows it. -/
def readName (cs : List Char) : Option (Token × List Char) :=
  if literalStarts.any (·.isPrefixOf cs) then none
  else (readIdent cs).map fun (name, rest) => (.ident name, rest)

/-- The token at the start, and what follows it. -/
def readToken (cs : List Char) : Option (Token × List Char) :=
  match cs with
  | '(' :: rest => some (.opening .round, rest)
  | '[' :: rest => some (.opening .square, rest)
  | '\x7b' :: rest => some (.opening .curly, rest)
  | ')' :: rest => some (.closing .round, rest)
  | ']' :: rest => some (.closing .square, rest)
  | '\x7d' :: rest => some (.closing .curly, rest)
  | cs => ((readLiteral cs).or (readSymbolChar cs)).or (readName cs)

/-- The tokens of a text. Each step takes at least one character, which bounds the steps. -/
def readTokens : Nat → List Char → Option (List Token)
  | 0, _ => none
  | steps + 1, cs =>
    match skipSeparators (cs.length + 1) cs with
    | [] => some []
    | cs =>
      match (readDocTokens cs).or ((readToken cs).map fun (t, rest) => ([t], rest)) with
      | none => none
      | some (ts, rest) => (readTokens steps rest).map (ts ++ ·)

/-- Every bracket is closed by one of its kind, those in `inside` too. -/
def isBalanced (inside : List Bracket) : List Token → Bool
  | [] => inside.isEmpty
  | .opening b :: ts => isBalanced (b :: inside) ts
  | .closing b :: ts =>
    match inside with
    | [] => false
    | c :: outside => c == b && isBalanced outside ts
  | _ :: ts => isBalanced inside ts

/-- The tokens of a text. A byte order mark at its start does not count. -/
def tokens? (s : String) : Option (List Token) :=
  let cs := match s.toList with
    | '\uFEFF' :: cs => cs
    | cs => cs
  (readTokens (cs.length + 1) cs).filter (isBalanced [])

/-- The tokens of a text that stands inside a line, where no comment takes what follows with it. -/
def inlineTokens? (s : String) : Option (List Token) := do
  let ts ← readTokens (s.length + 3) (s.toList ++ [' ', ';'])
  if ts.getLast? = some (.punct ';' false) ∧ isBalanced [] ts then some ts.dropLast else none

/-- The name that a text inside a line is: an identifier, and no keyword. -/
def ident? (s : String) : Option String :=
  match inlineTokens? s with
  | some [.ident name] => if isPlainName name then some name else none
  | _ => none

end CommandForge.Declaration
