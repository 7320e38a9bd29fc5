/-!
# ASCII characters

What is said of the 128 ASCII characters can be decided by looking at each of them (`forall_ascii`),
and letters and digits are among them (`toNat_lt_of_isAlphanum`).
-/

namespace CommandForge

/-- What holds of each of the 128 ASCII characters holds of every character among them. -/
theorem forall_ascii {p : Char → Prop} (h : ∀ n < 0x80, p (Char.ofNat n)) {c : Char}
    (hc : c.toNat < 0x80) : p c := by
  rw [← Char.ofNat_toNat c]
  exact h c.toNat hc

section

variable {c : Char}

theorem isAlpha_of_isUpper (h : c.isUpper = true) : c.isAlpha = true :=
  Bool.or_eq_true_iff.2 (.inl h)

theorem isAlpha_of_isLower (h : c.isLower = true) : c.isAlpha = true :=
  Bool.or_eq_true_iff.2 (.inr h)

theorem isAlphanum_of_isAlpha (h : c.isAlpha = true) : c.isAlphanum = true :=
  Bool.or_eq_true_iff.2 (.inl h)

theorem isAlphanum_of_isDigit (h : c.isDigit = true) : c.isAlphanum = true :=
  Bool.or_eq_true_iff.2 (.inr h)

/-- Letters and digits are ASCII characters. -/
theorem toNat_lt_of_isAlphanum (h : c.isAlphanum = true) : c.toNat < 0x80 := by
  have hbelow : ∀ d : Char, d.toNat < 0x80 → c.val ≤ d.val → c.toNat < 0x80 :=
    fun d hd hle => Nat.lt_of_le_of_lt (UInt32.le_iff_toNat_le.1 hle) hd
  rcases Bool.or_eq_true_iff.1 h with h | hdigit
  · rcases Bool.or_eq_true_iff.1 h with hupper | hlower
    · exact hbelow 'Z' (by decide) (of_decide_eq_true hupper).2
    · exact hbelow 'z' (by decide) (of_decide_eq_true (Bool.and_eq_true_iff.1 hlower).2)
  · exact hbelow '9' (by decide) (of_decide_eq_true (Bool.and_eq_true_iff.1 hdigit).2)

theorem toNat_lt_of_isLower (h : c.isLower = true) : c.toNat < 0x80 :=
  toNat_lt_of_isAlphanum (isAlphanum_of_isAlpha (isAlpha_of_isLower h))

end

/-- A character takes as many bytes in UTF-8 once it is made small. -/
theorem utf8Size_toLower (c : Char) : c.toLower.utf8Size = c.utf8Size := by
  by_cases h : c.val ≥ 'A'.val ∧ c.val ≤ 'Z'.val
  · have hc : c.toNat < 0x80 :=
      toNat_lt_of_isAlphanum (isAlphanum_of_isAlpha (isAlpha_of_isUpper (decide_eq_true h)))
    exact forall_ascii (p := fun c => c.toLower.utf8Size = c.utf8Size) (by decide) hc
  · have hlower : c.toLower = c := dif_neg h
    rw [hlower]

end CommandForge
