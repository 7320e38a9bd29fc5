import CommandForge.Declaration.Token
/-!
# Literals of Rust declarations

Texts, characters and numbers at the start of a text. A word may follow a literal directly and is
then part of it.
-/

namespace CommandForge.Declaration

/-- The character is a hexadecimal digit. -/
def isHexDigit (c : Char) : Bool :=
  c.isDigit || ('a' ≤ c && c ≤ 'f') || ('A' ≤ c && c ≤ 'F')

/-- The value of a hexadecimal digit. -/
def hexValue (c : Char) : Nat :=
  if c.isDigit then c.toNat - '0'.toNat else c.toLower.toNat - 'a'.toNat + 10

/-- What follows a literal without the word that belongs to it. -/
def dropSuffix (cs : List Char) : List Char :=
  match readWord cs with
  | some (_, rest) => rest
  | none => cs

/-! ## Texts and characters -/

/-- What a text is made of. -/
inductive TextKind where
  | characters
  | bytes
  /-- Characters up to a null character, which cannot stand among them. -/
  | terminated
  deriving DecidableEq, Repr

/-- The character can stand in a text as itself. -/
def TextKind.holds (kind : TextKind) (c : Char) : Bool :=
  match kind with
  | .characters => true
  | .bytes => c.toNat < 0x80
  | .terminated => c != '\x00'

/-- What follows the number of a character in curly brackets and the closing one: up to six digits,
with underscores behind the first. -/
def skipCodePoint (least digits value : Nat) : List Char → Option (List Char)
  | [] => none
  | c :: cs =>
    if isHexDigit c then
      if digits = 6 then none else skipCodePoint least (digits + 1) (16 * value + hexValue c) cs
    else if digits = 0 then none
    else if c = '_' then skipCodePoint least digits value cs
    else if c = '\x7d' ∧ value.isValidChar ∧ least ≤ value then some cs
    else none

/-- What follows an escape, behind its backslash. Bytes have no escapes by the number of a
character, and a text of characters has none above ASCII by two digits. -/
def skipEscape (kind : TextKind) : List Char → Option (List Char)
  | 'x' :: high :: low :: rest =>
    let fits := match kind with
      | .characters => hexValue high < 8
      | .bytes => true
      | .terminated => high != '0' || low != '0'
    if isHexDigit high && isHexDigit low && fits then some rest else none
  | 'u' :: '\x7b' :: rest =>
    match kind with
    | .characters => skipCodePoint 0 0 0 rest
    | .bytes => none
    | .terminated => skipCodePoint 1 0 0 rest
  | c :: rest =>
    if ['n', 'r', 't', '\\', '\'', '"'].contains c || (c == '0' && kind != .terminated) then
      some rest
    else none
  | [] => none

/-- What follows a text with escapes, behind its first quote. A text has at least as many characters
as steps. -/
def skipCooked (kind : TextKind) : Nat → List Char → Option (List Char)
  | 0, _ => none
  | _ + 1, [] => none
  | steps + 1, c :: cs =>
    match c, cs with
    | '"', rest => some rest
    | '\r', '\n' :: rest => skipCooked kind steps rest
    | '\r', _ => none
    | '\\', '\n' :: rest => skipCooked kind steps rest
    | '\\', '\r' :: '\n' :: rest => skipCooked kind steps rest
    | '\\', rest => (skipEscape kind rest).bind (skipCooked kind steps)
    | c, rest => if kind.holds c then skipCooked kind steps rest else none

/-- What follows a text without escapes, behind its first quote. It ends at a quote with `marks`
number signs behind it. -/
def skipRawBody (kind : TextKind) (marks : Nat) : List Char → Option (List Char)
  | [] => none
  | '\r' :: '\n' :: cs => skipRawBody kind marks cs
  | c :: cs =>
    if c = '\r' then none
    else if c = '"' ∧ cs.take marks = List.replicate marks '#' then some (cs.drop marks)
    else if kind.holds c then skipRawBody kind marks cs
    else none

/-- What follows a text without escapes, behind the letters that mark it. -/
def skipRaw (kind : TextKind) (cs : List Char) : Option (List Char) :=
  let marks := (cs.takeWhile (· = '#')).length
  match cs.dropWhile (· = '#') with
  | '"' :: rest => if marks ≤ 255 then skipRawBody kind marks rest else none
  | _ => none

/-- What follows a single character, behind its first quote. -/
def skipCharacter (kind : TextKind) (cs : List Char) : Option (List Char) :=
  let rest? := match cs with
    | '\\' :: rest => skipEscape kind rest
    | c :: rest => if kind.holds c then some rest else none
    | [] => none
  match rest? with
  | some ('\'' :: rest) => some rest
  | _ => none

/-- What follows the text or character at the start. -/
def skipQuoted (cs : List Char) : Option (List Char) :=
  match cs with
  | '"' :: rest => skipCooked .characters cs.length rest
  | 'r' :: rest => skipRaw .characters rest
  | 'b' :: '"' :: rest => skipCooked .bytes cs.length rest
  | 'b' :: 'r' :: rest => skipRaw .bytes rest
  | 'c' :: '"' :: rest => skipCooked .terminated cs.length rest
  | 'c' :: 'r' :: rest => skipRaw .terminated rest
  | 'b' :: '\'' :: rest => skipCharacter .bytes rest
  | '\'' :: rest => skipCharacter .characters rest
  | _ => none

/-! ## Numbers -/

/-- A digit, or an underscore between digits. -/
def isDigitOrGap (c : Char) : Bool := c.isDigit || c == '_'

/-- What follows an exponent, behind its letter: a sign at most, and at least one digit. -/
def skipExponent (signed valued : Bool) : List Char → Option (List Char)
  | [] => if valued then some [] else none
  | c :: cs =>
    if c = '+' ∨ c = '-' then
      if valued then some (c :: cs) else if signed then none else skipExponent true false cs
    else if c.isDigit then skipExponent signed true cs
    else if c = '_' then skipExponent signed valued cs
    else if valued then some (c :: cs)
    else none

/-- What follows the fraction and the exponent of a number, or one of the two. A point before
another one or before a word belongs to what follows. -/
def skipFraction : List Char → Option (List Char)
  | '.' :: cs =>
    if cs.head?.any fun c => c == '.' || isIdentStart c then none
    else
      match cs.dropWhile isDigitOrGap with
      | 'e' :: rest => some ((skipExponent false false rest).getD ('e' :: rest))
      | 'E' :: rest => some ((skipExponent false false rest).getD ('E' :: rest))
      | rest => some rest
  | 'e' :: cs | 'E' :: cs => skipExponent false false cs
  | _ => none

/-- What follows the digits of a whole number in a base. -/
def skipDigits (base : Nat) (empty : Bool) : List Char → Option (List Char)
  | [] => if empty then none else some []
  | c :: cs =>
    if c = '_' then if empty && base == 10 then none else skipDigits base empty cs
    else if isHexDigit c then
      if hexValue c < base then skipDigits base false cs
      else if c.isDigit || empty then none
      else some (c :: cs)
    else if empty then none
    else some (c :: cs)

/-- What follows the whole number at the start. -/
def skipInteger : List Char → Option (List Char)
  | '0' :: 'x' :: cs => skipDigits 16 true cs
  | '0' :: 'o' :: cs => skipDigits 8 true cs
  | '0' :: 'b' :: cs => skipDigits 2 true cs
  | cs => skipDigits 10 true cs

/-- What follows a number and the word that belongs to it, unless the word goes on. -/
def endNumber (rest : List Char) : Option (List Char) :=
  let rest := dropSuffix rest
  if rest.head?.any isIdentChar then none else some rest

/-- What follows the number at the start: one with a fraction or an exponent, or a whole one. -/
def skipNumber (cs : List Char) : Option (List Char) :=
  match cs with
  | [] => none
  | c :: _ =>
    if c.isDigit then
      ((skipFraction (cs.dropWhile isDigitOrGap)).bind endNumber).or
        ((skipInteger cs).bind endNumber)
    else none

/-- The literal at the start, and what follows it. -/
def readLiteral (cs : List Char) : Option (Token × List Char) :=
  (((skipQuoted cs).map dropSuffix).or (skipNumber cs)).map fun rest =>
    (.literal (String.ofList (cs.take (cs.length - rest.length))), rest)

end CommandForge.Declaration
