import CommandForge.Json.Basic
/-!
# Number literals

A literal is read into a significand of at most 64 bits and a power of ten. Digits behind the last
one that fits are not looked at, but those before the point still count as places. A literal
without point and exponent that fits is a whole number; every other one is a double: the
significand, rounded, times or divided by the power of ten, rounded again.
-/

namespace CommandForge

/-- The parts of a number literal. -/
structure NumberLiteral where
  negative : Bool
  whole : List Char
  /-- The digits behind the point, if there is one. -/
  fraction : Option (List Char)
  /-- The exponent, if there is one. -/
  exponent : Option Int

namespace NumberLiteral

/-- Appends digits to a significand as long as it fits in 64 bits; the second part is what did not
fit. -/
def absorb (significand : Nat) : List Char → Nat × List Char
  | [] => (significand, [])
  | c :: cs =>
    let next := significand * 10 + Number.digitValue c
    if next < Nat.pow 2 64 then absorb next cs else (significand, c :: cs)

/-- Ten to the `k` as a double. -/
def powerOfTen? (k : Nat) : Option Binary64 := Binary64.ofRatio? false (Nat.pow 10 k) 1

/-- The largest power of ten that one step multiplies or divides by. -/
def stepPower : Nat := 308

/-- The double `f` times ten to the `exponent`; none when it would be infinite. Negative powers
beyond `stepPower` are divided off in steps; two of them leave nothing of any significand, so
`steps` never runs out. -/
def scaleByTen? : (steps : Nat) → Binary64 → Int → Option Binary64
  | 0, f, _ => some f
  | steps + 1, f, exponent =>
    if exponent.natAbs ≤ stepPower then
      if 0 ≤ exponent then (powerOfTen? exponent.toNat).bind f.mul?
      else (powerOfTen? exponent.natAbs).bind f.div?
    else if f.isZero then some f
    else if 0 ≤ exponent then none
    else
      match (powerOfTen? stepPower).bind f.div? with
      | some f => scaleByTen? steps f (exponent + stepPower)
      | none => none

/-- The double of a significand and a power of ten. -/
def real? (negative : Bool) (significand : Nat) (exponent : Int) : Option JsonNumber := do
  let f ← Binary64.ofRatio? false significand 1
  let scaled ← scaleByTen? 4 f exponent
  return .real { scaled with negative := negative }

/-- The number that a literal stands for. -/
def value? (l : NumberLiteral) : Option JsonNumber :=
  let (significand, excess) := absorb 0 l.whole
  match l.fraction, l.exponent with
  | none, none =>
    if excess.isEmpty then
      if !l.negative then some (.int significand)
      else if significand = 0 ∨ Nat.pow 2 63 < significand then real? true significand 0
      else some (.int (-significand))
    else real? l.negative significand excess.length
  | fraction, exponent =>
    let digits := fraction.getD []
    let (significand, rest) := absorb significand digits
    let taken := digits.length - rest.length
    real? l.negative significand (excess.length - taken + exponent.getD 0)

end NumberLiteral

end CommandForge
