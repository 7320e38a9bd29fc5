import CommandForge.Number.Decimal
/-!
# Binary floating point numbers

Finite doubles as a sign, a mantissa and a power of two, with exact arithmetic on natural numbers.
`Binary64.ofRatio?` rounds a ratio to the nearest double, a half to the even mantissa; products and
quotients are the exact ones, rounded once. `Binary64.shortest` finds the fewest decimal digits
that no other double is nearer to.
-/

namespace CommandForge

/-- A finite double: the mantissa times two to the exponent, with its sign. The mantissa has 53
bits, or the exponent is the least one. -/
structure Binary64 where
  negative : Bool
  mantissa : Nat
  exponent : Int
  deriving DecidableEq, Repr

namespace Binary64

/-- The exponent of the smallest doubles. -/
def minExponent : Int := -1074

/-- The exponent of the largest doubles. -/
def maxExponent : Int := 971

/-- The whole number nearest to `num / den`; a half goes to the even neighbour. -/
def roundHalfEven (num den : Nat) : Nat :=
  let q := num / den
  let r := num % den
  if 2 * r < den then q
  else if den < 2 * r then q + 1
  else if q % 2 = 0 then q else q + 1

/-- The ratio `num / den` divided by two to the `e`, as a ratio. -/
def scale (num den : Nat) (e : Int) : Nat × Nat :=
  (num * Nat.pow 2 (-e).toNat, den * Nat.pow 2 e.toNat)

/-- The exponent under which `num / den` has a mantissa of 53 bits, or the least exponent. -/
def exponentFor (num den : Nat) : Int :=
  let guess : Int := num.log2 - den.log2 - 52
  let (n, d) := scale num den guess
  max minExponent (if n / d < Nat.pow 2 52 then guess - 1 else guess)

/-- The double nearest to `num / den`; none when it would be infinite. -/
def ofRatio? (negative : Bool) (num den : Nat) : Option Binary64 :=
  if num = 0 then some ⟨negative, 0, minExponent⟩
  else
    let e := exponentFor num den
    let (n, d) := scale num den e
    let m := roundHalfEven n d
    let (m, e) := if m = Nat.pow 2 53 then (Nat.pow 2 52, e + 1) else (m, e)
    if maxExponent < e then none else some ⟨negative, m, e⟩

/-- The number has no magnitude. -/
def isZero (x : Binary64) : Bool := x.mantissa == 0

/-- The magnitude as a ratio. -/
def ratio (x : Binary64) : Nat × Nat :=
  (x.mantissa * Nat.pow 2 x.exponent.toNat, Nat.pow 2 (-x.exponent).toNat)

/-- The product of the magnitudes, rounded. -/
def mul? (x y : Binary64) : Option Binary64 :=
  let (a, b) := x.ratio
  let (c, d) := y.ratio
  ofRatio? false (a * c) (b * d)

/-- The quotient of the magnitudes, rounded; the divisor is not zero. -/
def div? (x y : Binary64) : Option Binary64 :=
  let (a, b) := x.ratio
  let (c, d) := y.ratio
  ofRatio? false (a * d) (b * c)

/-! ## Shortest decimals -/

/-- The place of the first digit of `num / den`: the least `p` with `num / den < 10 ^ p`. -/
def decimalPlace (num den : Nat) : Int :=
  if den ≤ num then (Number.digits (num / den)).length else -(leadingZeros 400 num)
where
  /-- The zeros of `n / den` behind the point, up to `fuel`. -/
  leadingZeros : Nat → Nat → Nat
    | 0, _ => 0
    | fuel + 1, n => if den ≤ n * 10 then 0 else leadingZeros fuel (n * 10) + 1

/-- `d · 10 ^ k` on a common scale with `u · 2 ^ q`: the first times the scale. -/
def decimalScaled (k q : Int) (d : Nat) : Nat :=
  d * Nat.pow 10 k.toNat * Nat.pow 2 (-q).toNat

/-- `u · 2 ^ q` on a common scale with `d · 10 ^ k`: the first times the scale. -/
def binaryScaled (k q : Int) (u : Nat) : Nat :=
  u * Nat.pow 2 q.toNat * Nat.pow 10 (-k).toNat

/-- `d` with `count` digits times ten to the `k`; a `d` that was rounded up to one more digit is a
power of ten and has one digit only. -/
def withDigits (count d : Nat) (k : Int) : Nat × Int :=
  if d = Nat.pow 10 count then (1, k + count) else (d, k)

/-- The decimal with `count` digits that reads back as the magnitude, if there is one: its digits
as a number, and the power of ten. -/
def digitsOf? (x : Binary64) (place : Int) (count : Nat) : Option (Nat × Int) :=
  let k := place - count
  let q := x.exponent - 2
  let value := binaryScaled k q (4 * x.mantissa)
  let below := if x.mantissa = Nat.pow 2 52 ∧ minExponent < x.exponent then 1 else 2
  let least := binaryScaled k q (4 * x.mantissa - below)
  let most := binaryScaled k q (4 * x.mantissa + 2)
  let unit := decimalScaled k q 1
  let low := value / unit
  let reads (d : Nat) : Bool :=
    let y := decimalScaled k q d
    if x.mantissa % 2 = 0 then least ≤ y && y ≤ most else least < y && y < most
  let lowNearer : Bool :=
    let a := value - decimalScaled k q low
    let b := decimalScaled k q (low + 1) - value
    a < b || (a == b && low % 2 == 0)
  match reads low, reads (low + 1) with
  | true, true => some (withDigits count (if lowNearer then low else low + 1) k)
  | true, false => some (withDigits count low k)
  | false, true => some (withDigits count (low + 1) k)
  | false, false => none

/-- The fewest digits that read back, from `count` on; seventeen always do. -/
def shortestFrom (x : Binary64) (place : Int) : Nat → Nat → Nat × Int
  | 0, _ => (0, 0)
  | fuel + 1, count =>
    match x.digitsOf? place count with
    | some decimal => decimal
    | none => shortestFrom x place fuel (count + 1)

/-- The shortest decimal of a magnitude: its digits as a number, and the power of ten. -/
def shortest (x : Binary64) : Nat × Int :=
  if x.isZero then (0, 0)
  else
    let (num, den) := x.ratio
    x.shortestFrom (decimalPlace num den) 17 1

end Binary64

/-- How a floating point number is written: with a point as long as its first digit stands in one
of these places, and with an exponent outside. -/
structure FloatFormat where
  leastPlace : Int
  greatestPlace : Int
  positiveMark : List Char

/-- The text of a double. A whole number keeps one zero behind the point. -/
def Binary64.text (format : FloatFormat) (x : Binary64) : List Char :=
  let (number, power) := x.shortest
  let ds := Number.digits number
  let place : Int := ds.length + power
  let body : List Char :=
    if x.isZero then ['0', '.', '0']
    else if format.leastPlace ≤ place ∧ place ≤ format.greatestPlace then
      if place ≤ 0 then ['0', '.'] ++ List.replicate (-place).toNat '0' ++ ds
      else if ds.length ≤ place.toNat then
        ds ++ List.replicate (place.toNat - ds.length) '0' ++ ['.', '0']
      else ds.take place.toNat ++ '.' :: ds.drop place.toNat
    else
      let exponent := place - 1
      let mark := if exponent < 0 then ['-'] else format.positiveMark
      let mantissa :=
        match ds with
        | [] => []
        | [d] => [d]
        | d :: rest => d :: '.' :: rest
      mantissa ++ 'e' :: mark ++ Number.digits exponent.natAbs
  if x.negative then '-' :: body else body

end CommandForge
