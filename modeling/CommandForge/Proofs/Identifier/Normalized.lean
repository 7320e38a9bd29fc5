import CommandForge.Identifier.Words
import CommandForge.Proofs.Text.Ascii
/-!
# Normalized names

What every normalized name looks like: it is made of small ASCII letters, digits and underscores
(`isWireChar_of_normalize`), so it is its own lowercase (`Text.lowercase_of_isWireChar`). Of the two
boundary passes only this is used: they insert underscores and change nothing else.
-/

namespace CommandForge

namespace Identifier

/-- A character that a normalized name may hold. -/
def isWireChar (c : Char) : Bool := c.isLower || c.isDigit || c == '_'

/-! ## Characters -/

/-- An identifier without a fault is made of ASCII letters and digits. -/
theorem isAlphanum_of_fault?_eq_none {cs : List Char} (h : fault? cs = none) :
    ∀ c ∈ cs, c.isAlphanum = true := by
  cases cs with
  | nil => simp
  | cons c cs =>
    obtain ⟨hc, hcs⟩ := (fault?_eq_none_iff c cs).1 h
    intro d hd
    rcases List.mem_cons.1 hd with rfl | hd
    · exact isAlphanum_of_isAlpha hc
    · exact hcs d hd

theorem isWireChar_cases {c : Char} (h : isWireChar c = true) :
    c.isLower = true ∨ c.isDigit = true ∨ c = '_' := by
  simpa [isWireChar, or_assoc] using h

theorem toNat_lt_of_isWireChar {c : Char} (h : isWireChar c = true) : c.toNat < 0x80 := by
  rcases isWireChar_cases h with h | h | rfl
  · exact toNat_lt_of_isLower h
  · exact toNat_lt_of_isAlphanum (isAlphanum_of_isDigit h)
  · decide

theorem toLower_of_isWireChar {c : Char} (h : isWireChar c = true) : c.toLower = c :=
  forall_ascii (p := fun c => isWireChar c = true → c.toLower = c) (by decide)
    (toNat_lt_of_isWireChar h) h

/-- A letter or digit in lowercase may stand in a normalized name. -/
theorem isWireChar_toLower {c : Char} (h : c.isAlphanum = true) : isWireChar c.toLower = true :=
  forall_ascii (p := fun c => c.isAlphanum = true → isWireChar c.toLower = true) (by decide)
    (toNat_lt_of_isAlphanum h) h

/-! ## The two passes -/

/-- The first pass adds nothing but underscores. -/
theorem mem_separateTails {cs : List Char} {d : Char} (h : d ∈ separateTails cs) :
    d ∈ cs ∨ d = '_' := by
  fun_induction separateTails cs with
  | case1 c u l cs hul ih =>
    simp only [List.mem_cons, List.mem_append] at h ⊢
    rcases h with rfl | rfl | rfl | rfl | h | h
    · simp
    · simp
    · simp
    · simp
    · simp [(List.takeWhile_sublist _).subset h]
    · rcases ih h with h | h
      · simp [(List.dropWhile_sublist _).subset h]
      · exact .inr h
  | case2 c u l cs hul ih =>
    rcases List.mem_cons.1 h with rfl | h
    · simp
    · exact (ih h).imp_left (List.mem_cons_of_mem c)
  | case3 cs hcs => exact .inl h

/-- The second pass adds nothing but underscores. -/
theorem mem_separateCapitals {cs : List Char} {d : Char} (h : d ∈ separateCapitals cs) :
    d ∈ cs ∨ d = '_' := by
  fun_induction separateCapitals cs with
  | case1 a b cs hab ih =>
    simp only [List.mem_cons] at h ⊢
    rcases h with rfl | rfl | rfl | h
    · simp
    · simp
    · simp
    · exact (ih h).imp_left fun h => .inr (.inr h)
  | case2 a b cs hab ih =>
    rcases List.mem_cons.1 h with rfl | h
    · simp
    · exact (ih h).imp_left (List.mem_cons_of_mem a)
  | case3 cs hcs => exact .inl h

/-- Separated letters and digits in lowercase may all stand in a normalized name. -/
theorem isWireChar_of_mem_snake {cs : List Char} (hcs : ∀ c ∈ cs, c.isAlphanum = true) :
    ∀ d ∈ snake cs, isWireChar d = true := by
  intro d hd
  obtain ⟨e, he, rfl⟩ := List.mem_map.1 hd
  rcases mem_separateCapitals he with he | rfl
  · rcases mem_separateTails he with he | rfl
    · exact isWireChar_toLower (hcs e he)
    · decide
  · decide

/-! ## Normalized names -/

/-- A text without a fault is normalized, to its words with underscores between them. -/
theorem normalize_eq_ok_iff {s w : String} :
    normalize s = .ok w ↔ fault? s.toList = none ∧ w = String.ofList (snake s.toList) := by
  unfold normalize
  cases h : fault? s.toList <;> simp [eq_comm]

/-- A normalized name is made of small letters, digits and underscores. -/
theorem isWireChar_of_normalize {s w : String} (h : normalize s = .ok w) :
    ∀ c ∈ w.toList, isWireChar c = true := by
  obtain ⟨hs, rfl⟩ := normalize_eq_ok_iff.1 h
  rw [String.toList_ofList]
  exact isWireChar_of_mem_snake (isAlphanum_of_fault?_eq_none hs)

theorem separateTails_ne_nil {cs : List Char} (h : cs ≠ []) : separateTails cs ≠ [] := by
  unfold separateTails
  split
  · split <;> simp
  · exact h

theorem separateCapitals_ne_nil {cs : List Char} (h : cs ≠ []) : separateCapitals cs ≠ [] := by
  unfold separateCapitals
  split
  · split <;> simp
  · exact h

/-- Neither what is normalized nor its normalized name is empty. -/
theorem ne_empty_of_normalize {s w : String} (h : normalize s = .ok w) : s ≠ "" ∧ w ≠ "" := by
  obtain ⟨hs, rfl⟩ := normalize_eq_ok_iff.1 h
  have hne : s.toList ≠ [] := by
    intro hnil
    rw [hnil] at hs
    contradiction
  have hsnake : snake s.toList ≠ [] := by
    simpa [snake, Text.lowerAscii] using separateCapitals_ne_nil (separateTails_ne_nil hne)
  refine ⟨fun he => hne (by rw [he]; rfl), fun he => hsnake ?_⟩
  simpa using congrArg String.toList he

end Identifier

namespace Text

theorem lowerChar_of_lt {c : Char} (h : c.toNat < 0x80) : lowerChar c = [c.toLower] := by
  simp [lowerChar, h]

theorem lowerAfter_of_isWireChar {before cs : List Char}
    (h : ∀ c ∈ cs, Identifier.isWireChar c = true) : lowerAfter before cs = cs := by
  induction cs generalizing before with
  | nil => rfl
  | cons c cs ih =>
    have hc := h c List.mem_cons_self
    have hne : c ≠ 'Σ' := by rintro rfl; exact absurd hc (by decide)
    simp only [lowerAfter, if_neg hne, lowerChar_of_lt (Identifier.toNat_lt_of_isWireChar hc),
      Identifier.toLower_of_isWireChar hc, List.singleton_append]
    rw [ih fun d hd => h d (List.mem_cons_of_mem c hd)]

/-- A text that may be a normalized name is its own lowercase. -/
theorem lowercase_of_isWireChar {s : String}
    (h : ∀ c ∈ s.toList, Identifier.isWireChar c = true) : lowercase s = s := by
  rw [lowercase, lower, lowerAfter_of_isWireChar h, String.ofList_toList]

end Text

end CommandForge
