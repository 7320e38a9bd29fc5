import CommandForge.Number.Binary64
import CommandForge.Toml.Basic
import CommandForge.Toml.Text
/-!
# Numbers, dates and times of TOML texts

A scalar without quotes is taken from the text up to the next separator and then has to be as a
whole a truth value, a number, or a date, a time or both. Integers have at most 128 bits, and other
numbers are finite or one of the words for those that are not; a number beyond that is out of range.
-/

namespace CommandForge.Toml

/-! ## Numbers -/

/-- Further digits of a run, in which single underscores may stand between digits. -/
def moreDigits (isDigit : Char → Bool) : List Char → List Char × List Char
  | [] => ([], [])
  | '_' :: c :: rest =>
    if isDigit c then
      let (ds, behind) := moreDigits isDigit rest
      (c :: ds, behind)
    else ([], '_' :: c :: rest)
  | c :: rest =>
    if isDigit c then
      let (ds, behind) := moreDigits isDigit rest
      (c :: ds, behind)
    else ([], c :: rest)

/-- A run of at least one digit, and what follows it. -/
def readDigits (isDigit : Char → Bool) : List Char → Option (List Char × List Char)
  | [] => none
  | c :: rest =>
    if isDigit c then
      let (ds, behind) := moreDigits isDigit rest
      some (c :: ds, behind)
    else none

/-- Whether there is a minus sign, and what follows the sign. -/
def readSign : List Char → Bool × List Char
  | '-' :: rest => (true, rest)
  | '+' :: rest => (false, rest)
  | cs => (false, cs)

/-- Decimal digits without a zero in front of others. -/
def readWhole (cs : List Char) : Option (List Char × List Char) :=
  match readDigits Char.isDigit cs with
  | some ('0' :: _ :: _, _) => none
  | read => read

/-- The number that digits write in a base. -/
def ofBase (base : Nat) (ds : List Char) : Nat :=
  ds.foldl (fun n c => base * n + (Number.hexValue? c).getD 0) 0

/-- The number that an integer in a base other than ten is, behind its mark. -/
def baseInteger? (base : Nat) (cs : List Char) : Option Int :=
  match readDigits (fun c => (Number.hexValue? c).any (· < base)) cs with
  | some (ds, []) => some (ofBase base ds)
  | _ => none

/-- The number that a decimal integer is. -/
def decimalInteger? (cs : List Char) : Option Int :=
  let (negative, cs) := readSign cs
  match readWhole cs with
  | some (ds, []) => some (if negative then -Number.ofDigits ds else Number.ofDigits ds)
  | _ => none

/-- The number that an integer is. -/
def integer? : List Char → Option Int
  | '0' :: 'x' :: cs => baseInteger? 16 cs
  | '0' :: 'o' :: cs => baseInteger? 8 cs
  | '0' :: 'b' :: cs => baseInteger? 2 cs
  | cs => decimalInteger? cs

/-- The integer has at most 128 bits, one of them for the sign if it is negative. -/
def isInRange (n : Int) : Bool := -Int.pow 2 127 ≤ n && n < Int.pow 2 128

/-- The digits behind a point, if there is one. -/
def readFraction : List Char → Option (List Char × List Char)
  | '.' :: cs => readDigits Char.isDigit cs
  | cs => some ([], cs)

/-- The exponent, if there is one. -/
def readExponent : List Char → Option (Int × List Char)
  | [] => some (0, [])
  | c :: cs =>
    if c = 'e' ∨ c = 'E' then
      let (negative, cs) := readSign cs
      (readDigits Char.isDigit cs).map fun (ds, rest) =>
        let n : Int := Number.ofDigits ds
        (if negative then -n else n, rest)
    else some (0, c :: cs)

/-- The nearest double to `n` times ten to the `exponent` is finite. The number of digits decides
first, so that powers are small. -/
def isFinite (n : Nat) (exponent : Int) : Bool :=
  let place := (Number.digits n).length + exponent
  if n = 0 ∨ place ≤ 308 then true
  else if 309 < place then false
  else
    (Binary64.ofRatio? false (n * Nat.pow 10 exponent.toNat) (Nat.pow 10 (-exponent).toNat)).isSome

/-- Whether the number with a fraction or an exponent that a text is, behind its sign, is finite. -/
def unsignedFloat? (cs : List Char) : Option Bool := do
  let (whole, rest) ← readWhole cs
  let (fraction, behind) ← readFraction rest
  match ← readExponent behind with
  | (exponent, []) =>
    if rest.isEmpty then none
    else some (isFinite (Number.ofDigits (whole ++ fraction)) (exponent - fraction.length))
  | _ => none

/-- Whether the number that a text is, and that is no integer, has a place among those that are
written: the finite ones and the words for others. -/
def float? (cs : List Char) : Option Bool :=
  let cs := (readSign cs).2
  match String.ofList cs with
  | "inf" | "nan" => some true
  | _ => unsignedFloat? cs

/-! ## Dates and times -/

/-- The number that exactly `count` digits continue, and what follows them. -/
def readNumber : (count n : Nat) → List Char → Option (Nat × List Char)
  | 0, n, cs => some (n, cs)
  | _ + 1, _, [] => none
  | count + 1, n, c :: cs =>
    if c.isDigit then readNumber count (n * 10 + Number.digitValue c) cs else none

/-- What follows the character `c` at the start. -/
def skipChar (c : Char) : List Char → Option (List Char)
  | [] => none
  | d :: cs => if c = d then some cs else none

/-- How many days a month has. -/
def daysIn (year month : Nat) : Nat :=
  if month = 2 then
    if year % 4 = 0 ∧ (year % 100 ≠ 0 ∨ year % 400 = 0) then 29 else 28
  else if month = 4 ∨ month = 6 ∨ month = 9 ∨ month = 11 then 30
  else 31

/-- What follows the date at the start. -/
def skipDate (cs : List Char) : Option (List Char) := do
  let (year, cs) ← readNumber 4 0 cs
  let cs ← skipChar '-' cs
  let (month, cs) ← readNumber 2 0 cs
  let cs ← skipChar '-' cs
  let (day, cs) ← readNumber 2 0 cs
  if 1 ≤ month ∧ month ≤ 12 ∧ 1 ≤ day ∧ day ≤ daysIn year month then some cs else none

/-- What follows the part of a second at the start, if there is one. -/
def skipSecondPart : List Char → Option (List Char)
  | '.' :: cs => if cs.head?.any Char.isDigit then some (cs.dropWhile Char.isDigit) else none
  | cs => some cs

/-- What follows the seconds at the start, if there are any. A minute may have a leap second. -/
def skipSeconds : List Char → Option (List Char)
  | ':' :: cs => do
    let (second, cs) ← readNumber 2 0 cs
    if second ≤ 60 then skipSecondPart cs else none
  | cs => some cs

/-- What follows the hour and the minute at the start. -/
def skipMinutes (cs : List Char) : Option (List Char) := do
  let (hour, cs) ← readNumber 2 0 cs
  let cs ← skipChar ':' cs
  let (minute, cs) ← readNumber 2 0 cs
  if hour ≤ 23 ∧ minute ≤ 59 then some cs else none

/-- What follows the time at the start. -/
def skipTime (cs : List Char) : Option (List Char) := (skipMinutes cs).bind skipSeconds

/-- The text is an offset from universal time, or nothing. -/
def isOffset : List Char → Bool
  | [] => true
  | c :: cs =>
    if c = 'Z' ∨ c = 'z' then cs.isEmpty
    else if c = '+' ∨ c = '-' then skipMinutes cs == some []
    else false

/-- The text is nothing, or a time with an offset behind its mark. -/
def isTimePart : List Char → Bool
  | [] => true
  | c :: cs =>
    if c = 'T' ∨ c = 't' ∨ c = ' ' then (skipTime cs).any isOffset else false

/-- The text is a date, a time or both. -/
def isDateTime (cs : List Char) : Bool :=
  match skipDate cs with
  | some rest => isTimePart rest
  | none => skipTime cs == some []

/-! ## Scalars -/

/-- A number that is in range, or one that is not. -/
def number (inRange : Bool) : Toml := if inRange then .other else .outOfRange

/-- The value of a text without quotes. -/
def scalar? (cs : List Char) : Option Toml :=
  match String.ofList cs with
  | "true" => some (.bool true)
  | "false" => some (.bool false)
  | _ =>
    (((integer? cs).map isInRange).or (float? cs)).map number
      |>.or (if isDateTime cs then some .other else none)

/-- The character can belong to a scalar without quotes. -/
def isScalarChar (c : Char) : Bool := !"=,[]\x7b\x7d \t#\r\n".toList.contains c

/-- The text of the scalar at the start, and what follows it. A date may be followed by a space and
a time. -/
def spanScalar (cs : List Char) : List Char × List Char :=
  let text := cs.takeWhile isScalarChar
  match cs.dropWhile isScalarChar with
  | ' ' :: rest =>
    if skipDate text == some [] && rest.head?.any Char.isDigit then
      (text ++ ' ' :: rest.takeWhile isScalarChar, rest.dropWhile isScalarChar)
    else (text, ' ' :: rest)
  | rest => (text, rest)

/-- The scalar at the start, and what follows it. -/
def readScalar (cs : List Char) : Option (Toml × List Char) :=
  let (text, rest) := spanScalar cs
  (scalar? text).map fun v => (v, rest)

end CommandForge.Toml
