import CommandForge.Json.Basic
import CommandForge.Text.Quoted
/-!
# Writing JSON

Two layouts of a value: without any space, and with one item or member a line, two spaces deeper
than what holds it.
-/

namespace CommandForge.Json

/-- Doubles have a point from a hundred-thousandth up to ten to the sixteenth; beyond, the sign of
the exponent is always written. -/
def floatFormat : FloatFormat := ⟨-4, 16, ['+']⟩

/-- The text of a number. -/
def numberText : JsonNumber → List Char
  | .int n => Number.intDigits n
  | .real x => x.text floatFormat

/-- The number written with at least two hexadecimal digits. -/
def hex2 (n : Nat) : List Char := [Nat.digitChar (n / 16), Nat.digitChar (n % 16)]

/-- One character inside a string. -/
def escape (c : Char) : List Char :=
  match c with
  | '"' => ['\\', '"']
  | '\\' => ['\\', '\\']
  | '\x08' => ['\\', 'b']
  | '\x0c' => ['\\', 'f']
  | '\n' => ['\\', 'n']
  | '\r' => ['\\', 'r']
  | '\t' => ['\\', 't']
  | c => if c.toNat < 0x20 then ['\\', 'u', '0', '0'] ++ hex2 c.toNat else [c]

/-- A string with its quotes. -/
def stringText (s : String) : List Char := '"' :: s.toList.flatMap escape ++ ['"']

mutual

/-- The value without spaces. -/
def compactChars : Json → List Char
  | .null => ['n', 'u', 'l', 'l']
  | .bool true => ['t', 'r', 'u', 'e']
  | .bool false => ['f', 'a', 'l', 's', 'e']
  | .number n => numberText n
  | .string s => stringText s
  | .array [] => ['[', ']']
  | .array (v :: vs) => '[' :: compactChars v ++ compactItems vs
  | .object [] => ['{', '}']
  | .object ((k, v) :: ms) => '{' :: stringText k ++ ':' :: compactChars v ++ compactMembers ms

/-- Further items of an array, and its bracket. -/
def compactItems : List Json → List Char
  | [] => [']']
  | v :: vs => ',' :: compactChars v ++ compactItems vs

/-- Further members of an object, and its brace. -/
def compactMembers : List (String × Json) → List Char
  | [] => ['}']
  | (k, v) :: ms => ',' :: stringText k ++ ':' :: compactChars v ++ compactMembers ms

end

/-- A line feed and the indentation of a level. -/
def newline (level : Nat) : List Char := '\n' :: List.replicate (2 * level) ' '

mutual

/-- The value with one item or member a line. -/
def prettyChars (level : Nat) : Json → List Char
  | .null => ['n', 'u', 'l', 'l']
  | .bool true => ['t', 'r', 'u', 'e']
  | .bool false => ['f', 'a', 'l', 's', 'e']
  | .number n => numberText n
  | .string s => stringText s
  | .array [] => ['[', ']']
  | .array (v :: vs) =>
    '[' :: newline (level + 1) ++ prettyChars (level + 1) v ++ prettyItems level vs
  | .object [] => ['{', '}']
  | .object ((k, v) :: ms) =>
    '{' :: newline (level + 1) ++ stringText k ++ ':' :: ' ' :: prettyChars (level + 1) v
      ++ prettyMembers level ms

/-- Further items of an array, and its bracket. -/
def prettyItems (level : Nat) : List Json → List Char
  | [] => newline level ++ [']']
  | v :: vs => ',' :: newline (level + 1) ++ prettyChars (level + 1) v ++ prettyItems level vs

/-- Further members of an object, and its brace. -/
def prettyMembers (level : Nat) : List (String × Json) → List Char
  | [] => newline level ++ ['}']
  | (k, v) :: ms =>
    ',' :: newline (level + 1) ++ stringText k ++ ':' :: ' ' :: prettyChars (level + 1) v
      ++ prettyMembers level ms

end

/-- The value without spaces. -/
def compact (v : Json) : String := String.ofList (compactChars v)

/-- The value with one item or member a line. -/
def pretty (v : Json) : String := String.ofList (prettyChars 0 v)

end CommandForge.Json
