import Mathlib.Algebra.Group.Int.Defs
import Mathlib.Algebra.Group.Nat.Defs
import CommandForge.Json.Printer
import CommandForge.Json.Reader
/-!
# Strings and whole numbers of JSON read back

The reader undoes the printer on a string (`readChars_flatMap_escape`) and on a whole number of 64
bits (`readNumber_intDigits`), whatever stands behind it. Behind a number that has to be something
that cannot belong to it (`EndsNumber`).
-/

namespace CommandForge

/-! ## Digits -/

namespace Number

theorem digitValue_digitChar : ∀ d < 10, digitValue (digitChar d) = d := by decide

theorem isDigit_digitChar : ∀ d < 10, (digitChar d).isDigit = true := by decide

theorem digits_ne_nil (n : Nat) : digits n ≠ [] := by
  rw [digits]
  split <;> simp

theorem isDigit_of_mem_digits {n : Nat} {c : Char} (h : c ∈ digits n) : c.isDigit = true := by
  induction n using digits.induct with
  | case1 n hn =>
    rw [digits, if_pos hn, List.mem_singleton] at h
    exact h ▸ isDigit_digitChar n hn
  | case2 n hn ih =>
    rw [digits, if_neg hn, List.mem_append, List.mem_singleton] at h
    rcases h with h | rfl
    · exact ih h
    · exact isDigit_digitChar _ (Nat.mod_lt n (by decide))

/-- The digits of a number have it as their value. -/
theorem ofDigits_digits (n : Nat) : ofDigits (digits n) = n := by
  induction n using digits.induct with
  | case1 n hn => rw [digits, if_pos hn]; simp [ofDigits, digitValue_digitChar n hn]
  | case2 n hn ih =>
    rw [digits, if_neg hn]
    simp only [ofDigits, List.foldl_append, List.foldl_cons, List.foldl_nil] at ih ⊢
    rw [ih, digitValue_digitChar _ (Nat.mod_lt n (by decide))]
    omega

/-- No zero is written in front of a positive number. -/
theorem head_digits_ne_zero {n : Nat} (h : 0 < n) : ∃ c cs, digits n = c :: cs ∧ c ≠ '0' := by
  induction n using digits.induct with
  | case1 n hn =>
    refine ⟨digitChar n, [], by rw [digits, if_pos hn], ?_⟩
    intro hc
    have := congrArg digitValue hc
    rw [digitValue_digitChar n hn] at this
    exact absurd this (Nat.ne_of_gt h)
  | case2 n hn ih =>
    obtain ⟨c, cs, hcs, hc⟩ := ih (by omega)
    exact ⟨c, cs ++ [digitChar (n % 10)], by rw [digits, if_neg hn, hcs, List.cons_append], hc⟩

end Number

/-! ## Significands -/

namespace NumberLiteral

theorem le_foldl (s : Nat) (cs : List Char) :
    s ≤ cs.foldl (fun n c => n * 10 + Number.digitValue c) s := by
  induction cs generalizing s with
  | nil => exact Nat.le_refl s
  | cons c cs ih =>
    have hs : s ≤ s * 10 + Number.digitValue c := by omega
    exact Nat.le_trans hs (ih _)

/-- Digits of a number that fits are taken in completely. -/
theorem absorb_of_lt {s : Nat} {cs : List Char}
    (h : cs.foldl (fun n c => n * 10 + Number.digitValue c) s < 2 ^ 64) :
    absorb s cs = (cs.foldl (fun n c => n * 10 + Number.digitValue c) s, []) := by
  induction cs generalizing s with
  | nil => rfl
  | cons c cs ih =>
    have hc : s * 10 + Number.digitValue c < Nat.pow 2 64 :=
      Nat.lt_of_le_of_lt (le_foldl (s * 10 + Number.digitValue c) cs) h
    simp only [absorb, if_pos hc]
    exact ih h

theorem absorb_digits {n : Nat} (h : n < 2 ^ 64) : absorb 0 (Number.digits n) = (n, []) := by
  have hn := Number.ofDigits_digits n
  rw [Number.ofDigits] at hn
  rw [absorb_of_lt (by rwa [hn]), hn]

/-- The digits of a number that fits are read as that number. -/
theorem value?_digits {n : Nat} (h : n < 2 ^ 64) :
    value? ⟨false, Number.digits n, none, none⟩ = some (.int n) := by
  simp [value?, absorb_digits h]

/-- The digits behind a minus are read as the negative number, if that fits. -/
theorem value?_neg_digits {n : Nat} (h0 : 0 < n) (h : n ≤ 2 ^ 63) :
    value? ⟨true, Number.digits n, none, none⟩ = some (.int (-n)) := by
  have hlt : n < 2 ^ 64 := by omega
  have hc : ¬ (n = 0 ∨ Nat.pow 2 63 < n) := by
    rw [Nat.pow_eq]
    omega
  simp only [value?, absorb_digits hlt, List.isEmpty_nil, ↓reduceIte, Bool.not_true,
    Bool.false_eq_true, if_neg hc]

end NumberLiteral

namespace Json

/-! ## Numbers -/

/-- Nothing at the start of `rest` could belong to a number before it. -/
def EndsNumber (rest : List Char) : Prop :=
  ∀ c ∈ rest.head?, c.isDigit = false ∧ c ≠ '.' ∧ c ≠ 'e' ∧ c ≠ 'E'

/-- Digits are taken up to where the number ends. -/
theorem spanDigits_append {ds rest : List Char} (hds : ∀ c ∈ ds, c.isDigit = true)
    (hr : EndsNumber rest) : spanDigits (ds ++ rest) = (ds, rest) := by
  rw [spanDigits, List.takeWhile_append_of_pos hds, List.dropWhile_append_of_pos hds]
  cases rest with
  | nil => simp
  | cons c rest =>
    have hc := (hr c (by simp)).1
    simp [hc]

/-- A whole number is taken in completely, and what stands behind it is left. -/
theorem readWhole_digits (n : Nat) {rest : List Char} (hr : EndsNumber rest) :
    readWhole (Number.digits n ++ rest) = some (Number.digits n, rest) := by
  rw [readWhole, spanDigits_append (fun c hc => Number.isDigit_of_mem_digits hc) hr]
  rcases Nat.eq_zero_or_pos n with rfl | hn
  · rw [Number.digits]
    rfl
  · obtain ⟨c, cs, hcs, hc⟩ := Number.head_digits_ne_zero hn
    rw [hcs]
    split
    · simp_all
    · simp_all
    · simp_all

theorem readFraction_of_endsNumber {rest : List Char} (hr : EndsNumber rest) :
    readFraction rest = some (none, rest) := by
  unfold readFraction
  split
  · exact absurd rfl (hr '.' (by simp)).2.1
  · rfl

theorem readExponent_of_endsNumber {rest : List Char} (hr : EndsNumber rest) :
    readExponent rest = some (none, rest) := by
  unfold readExponent
  split
  · exact absurd rfl (hr 'e' (by simp)).2.2.1
  · exact absurd rfl (hr 'E' (by simp)).2.2.2
  · rfl

/-- A number at least zero does not start with a sign. -/
theorem digits_append_ne_minus (n : Nat) (rest cs : List Char) :
    Number.digits n ++ rest ≠ '-' :: cs := by
  intro h
  cases hd : Number.digits n with
  | nil => exact Number.digits_ne_nil n hd
  | cons c ds =>
    have hc : c.isDigit = true := Number.isDigit_of_mem_digits (n := n) (by simp [hd])
    rw [hd, List.cons_append] at h
    obtain ⟨rfl, -⟩ := List.cons.inj h
    exact absurd hc (by decide)

/-- A whole number of 64 bits reads back, whatever ends it. -/
theorem readNumber_intDigits {n : Int} (h : -2 ^ 63 ≤ n) (h' : n < 2 ^ 64) {rest : List Char}
    (hr : EndsNumber rest) : readNumber (Number.intDigits n ++ rest) = some (.int n, rest) := by
  cases n with
  | ofNat n =>
    have hne := digits_append_ne_minus n rest
    rw [Int.ofNat_eq_natCast] at h'
    have hn : n < 2 ^ 64 := by omega
    simp only [Number.intDigits, readNumber]
    simp [readWhole_digits _ hr, readFraction_of_endsNumber hr, readExponent_of_endsNumber hr,
      NumberLiteral.value?_digits hn]
  | negSucc n =>
    have hn : n + 1 ≤ 2 ^ 63 := by omega
    simp only [Number.intDigits, readNumber, List.cons_append]
    simp [readWhole_digits _ hr, readFraction_of_endsNumber hr, readExponent_of_endsNumber hr,
      NumberLiteral.value?_neg_digits (Nat.succ_pos n) hn]
    omega

/-! ## Strings -/

theorem hexValue?_digitChar : ∀ d < 16, Number.hexValue? (Nat.digitChar d) = some d := by
  decide

theorem readHex4_hex2 {n : Nat} (hn : n < 0x20) (rest : List Char) :
    readHex4 ('0' :: '0' :: hex2 n ++ rest) = some (n, rest) := by
  have h0 : Number.hexValue? '0' = some 0 := by decide
  simp only [hex2, List.cons_append, List.nil_append, readHex4, h0,
    hexValue?_digitChar (n / 16) (by omega), hexValue?_digitChar (n % 16) (by omega)]
  simp only [Option.some.injEq, Prod.mk.injEq, and_true]
  omega

/-- A control character reads back from the four digits of its escape. -/
theorem readEscape_control {c : Char} (hc : c.toNat < 0x20) (rest : List Char) :
    readEscape ('u' :: '0' :: '0' :: hex2 c.toNat ++ rest) = some (c, rest) := by
  have h := readHex4_hex2 hc rest
  simp only [List.cons_append] at h
  simp only [List.cons_append, readEscape, h]
  rw [if_neg (by omega), if_neg (by omega), Char.ofNat_toNat]

theorem readChars_backslash {c : Char} {cs rest : List Char} (h : readEscape cs = some (c, rest)) :
    readChars ('\\' :: cs) = (readChars rest).map fun (cs, behind) => (c :: cs, behind) := by
  rw [readChars]
  split
  · rename_i h'
    obtain ⟨rfl, rfl⟩ : _ = c ∧ _ = rest := by simpa [h'] using h
    rfl
  · rename_i h'
    simp [h'] at h

theorem readChars_plain {c : Char} (hq : c ≠ '"') (hb : c ≠ '\\') (hc : ¬ c.toNat < 0x20)
    (rest : List Char) :
    readChars (c :: rest) = (readChars rest).map fun (cs, behind) => (c :: cs, behind) := by
  rw [readChars.eq_def]
  split
  · contradiction
  · rename_i hcons
    exact absurd (List.cons.inj hcons).1 hq
  · rename_i hcons
    exact absurd (List.cons.inj hcons).1 hb
  · rename_i hcons
    obtain ⟨rfl, rfl⟩ := List.cons.inj hcons
    rw [if_neg hc]

/-- A character reads back from what it is written as inside a string. -/
theorem readChars_escape (c : Char) (rest : List Char) :
    readChars (escape c ++ rest) = (readChars rest).map fun (cs, behind) => (c :: cs, behind) := by
  unfold escape
  split
  -- What has no escape of its own is a control character or stands for itself.
  case h_8 c h1 h2 h3 h4 h5 h6 h7 =>
    split
    · rename_i hc
      exact readChars_backslash (readEscape_control hc rest)
    · rename_i hc
      exact readChars_plain (by simpa using h1) (by simpa using h2) hc rest
  all_goals exact readChars_backslash rfl

/-- A string reads back up to its closing quote, whatever stands behind that. -/
theorem readChars_flatMap_escape (cs rest : List Char) :
    readChars (cs.flatMap escape ++ '"' :: rest) = some (cs, rest) := by
  induction cs with
  | nil => simp [readChars]
  | cons c cs ih =>
    rw [List.flatMap_cons, List.append_assoc, readChars_escape, ih]
    rfl

end Json

end CommandForge
