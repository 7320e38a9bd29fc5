import CommandForge.Text.Table.Visible
import CommandForge.Text.Casing
/-!
# Quoted texts

The form in which messages name a text or a character: between quotes, with escapes for what would
be misread or not be seen.
-/

namespace CommandForge.Text

/-- The digits of `n` in base sixteen, small letters, without leading zeros. -/
def hexDigits (n : Nat) : List Char := Nat.toDigits 16 n

/-- The character shows as itself inside quotes. -/
def isVisible (c : Char) : Bool :=
  let n := c.toNat
  if n < 0x7F then 0x20 ≤ n
  else !inRanges Table.invisible n && !inRanges Table.graphemeExtend n

/-- One character inside quotes of the kind `quote`. -/
def quoteChar (quote c : Char) : List Char :=
  if c = quote then ['\\', c]
  else
    match c with
    | '\x00' => ['\\', '0']
    | '\t' => ['\\', 't']
    | '\r' => ['\\', 'r']
    | '\n' => ['\\', 'n']
    | '\\' => ['\\', '\\']
    | c => if isVisible c then [c] else ['\\', 'u', '\x7b'] ++ hexDigits c.toNat ++ ['\x7d']

/-- The text between double quotes. -/
def quoted (s : String) : String :=
  String.ofList ('"' :: s.toList.flatMap (quoteChar '"') ++ ['"'])

/-- The character between single quotes. -/
def quotedChar (c : Char) : String :=
  String.ofList ('\'' :: quoteChar '\'' c ++ ['\''])

end CommandForge.Text
