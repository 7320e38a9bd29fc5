import CommandForge.Text.Table.Identifier
import CommandForge.Text.Casing
/-!
# Tokens of Rust declarations

Words, symbols, literals and brackets. A symbol of several characters is several tokens, of which
all but the last are marked as joined to the next one.
-/

namespace CommandForge.Declaration

/-- The kinds of brackets. -/
inductive Bracket where
  | round
  | square
  | curly
  deriving DecidableEq, Repr

/-- A token. -/
inductive Token where
  | ident (name : String)
  /-- A character of a symbol; `joint` if the symbol goes on behind it. -/
  | punct (c : Char) (joint : Bool)
  /-- A number, a character or a text, as it is written. -/
  | literal (text : String)
  | opening (b : Bracket)
  | closing (b : Bracket)
  deriving DecidableEq, Repr

/-- The bracket that opens. -/
def Bracket.left : Bracket → String
  | .round => "("
  | .square => "["
  | .curly => "\x7b"

/-- The bracket that closes. -/
def Bracket.right : Bracket → String
  | .round => ")"
  | .square => "]"
  | .curly => "\x7d"

/-- The token as it is written. -/
def Token.text : Token → String
  | .ident name => name
  | .punct c _ => c.toString
  | .literal text => text
  | .opening b => b.left
  | .closing b => b.right

/-- What stands between two tokens: nothing inside a symbol and on the inside of round and square
brackets, and else a space. -/
def gap : Token → Token → String
  | .punct _ true, _ => ""
  | .opening .round, _ | .opening .square, _ => ""
  | _, .closing .round | _, .closing .square => ""
  | _, _ => " "

/-- Tokens as a text. -/
def tokensText : List Token → String
  | [] => ""
  | [t] => t.text
  | t :: u :: rest => t.text ++ gap t u ++ tokensText (u :: rest)

/-- The tokens of a symbol. -/
def symbolTokens : List Char → List Token
  | [] => []
  | [c] => [.punct c false]
  | c :: cs => .punct c true :: symbolTokens cs

/-- What follows the symbol at the start; none if another one stands there. The symbol may go on. -/
def dropSymbol? : List Char → List Token → Option (List Token)
  | [], ts => some ts
  | [c], .punct d _ :: ts => if c = d then some ts else none
  | c :: cs, .punct d joint :: ts => if c = d ∧ joint then dropSymbol? cs ts else none
  | _ :: _, _ => none

/-- The double colon. -/
def colons : List Token := symbolTokens [':', ':']

/-! ## Words -/

/-- The character can start an identifier. ASCII is decided without the table. -/
def isIdentStart (c : Char) : Bool :=
  if c.toNat < 0x80 then c.isAlpha || c == '_'
  else Text.inRanges Text.Table.identifierStart c.toNat

/-- The character can stand in an identifier. ASCII is decided without the table. -/
def isIdentChar (c : Char) : Bool :=
  if c.toNat < 0x80 then c.isAlphanum || c == '_'
  else Text.inRanges Text.Table.identifierContinue c.toNat

/-- The word at the start, and what follows it. -/
def readWord : List Char → Option (List Char × List Char)
  | [] => none
  | c :: cs =>
    if isIdentStart c then some (c :: cs.takeWhile isIdentChar, cs.dropWhile isIdentChar) else none

/-- Words that no raw identifier can hold. -/
def neverRaw : List String := ["_", "super", "self", "Self", "crate"]

/-- Words that are no identifiers, unless they are raw. -/
def keywords : List String := [
  "_", "abstract", "as", "async", "await", "become", "box", "break", "const", "continue", "crate",
  "do", "dyn", "else", "enum", "extern", "false", "final", "fn", "for", "if", "impl", "in", "let",
  "loop", "macro", "match", "mod", "move", "mut", "override", "priv", "pub", "ref", "return",
  "Self", "self", "static", "struct", "super", "trait", "true", "try", "type", "typeof", "unsafe",
  "unsized", "use", "virtual", "where", "while", "yield"]

/-- The word is an identifier. -/
def isPlainName (name : String) : Bool := !keywords.contains name

/-- The identifier at the start, which may be raw, and what follows it. -/
def readIdent : List Char → Option (String × List Char)
  | 'r' :: '#' :: rest =>
    match readWord rest with
    | none => none
    | some (word, rest) =>
      if neverRaw.contains (String.ofList word) then none
      else some (String.ofList ('r' :: '#' :: word), rest)
  | cs => (readWord cs).map fun (word, rest) => (String.ofList word, rest)

end CommandForge.Declaration
