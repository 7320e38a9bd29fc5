import CommandForge.Text.Casing
/-!
# Texts that are their own lowercase

A text is its own lowercase when every character is that of its place (`lowerAfter_eq_cons_iff`):
lowercasing never drops a character, so no two changes can make up for one another. Underscores and
dashes look alike to it, so one may stand for the other (`lowercase_dashed_iff`).
-/

namespace CommandForge.Text

/-- The lowercase of a character between those before it, last one first, and those behind it. -/
def lowerAt (before : List Char) (c : Char) (behind : List Char) : List Char :=
  if c = 'Σ' then
    if startsCased before && !startsCased behind then ['ς'] else ['σ']
  else lowerChar c

variable {before cs : List Char} {c : Char}

theorem lowerAfter_cons (before : List Char) (c : Char) (cs : List Char) :
    lowerAfter before (c :: cs) = lowerAt before c cs ++ lowerAfter (c :: before) cs := rfl

theorem lowerChar_ne_nil (c : Char) : lowerChar c ≠ [] := by
  have himages : ∀ e ∈ Table.lowerExpansions, e.2 ≠ [] := by decide
  unfold lowerChar
  split
  · simp
  · unfold mapCase
    split
    · rename_i image hfind
      simpa using himages _ (Array.mem_of_find?_eq_some hfind)
    · simp

theorem lowerAt_ne_nil (before : List Char) (c : Char) (behind : List Char) :
    lowerAt before c behind ≠ [] := by
  unfold lowerAt
  split
  · split <;> simp
  · exact lowerChar_ne_nil c

theorem length_le_length_lowerAfter (before cs : List Char) :
    cs.length ≤ (lowerAfter before cs).length := by
  induction cs generalizing before with
  | nil => exact Nat.le_refl 0
  | cons c cs ih =>
    have himage := List.length_pos_iff.2 (lowerAt_ne_nil before c cs)
    have hrest := ih (c :: before)
    rw [lowerAfter_cons, List.length_append, List.length_cons]
    omega

/-- A text stays as it is when its first character does and the rest does. -/
theorem lowerAfter_eq_cons_iff : lowerAfter before (c :: cs) = c :: cs ↔
    lowerAt before c cs = [c] ∧ lowerAfter (c :: before) cs = cs := by
  rw [lowerAfter_cons]
  constructor
  · intro h
    -- The rest is no longer than `cs`, so one character is left for the first.
    have hrest := length_le_length_lowerAfter (c :: before) cs
    have hlength := congrArg List.length h
    rw [List.length_append, List.length_cons] at hlength
    have hone : (lowerAt before c cs).length = 1 := by
      have hpos := List.length_pos_iff.2 (lowerAt_ne_nil before c cs)
      omega
    have hsplit : lowerAt before c cs ++ lowerAfter (c :: before) cs = [c] ++ cs := h
    exact List.append_inj hsplit hone
  · rintro ⟨hc, hcs⟩
    rw [hc, hcs]
    rfl

/-! ## Dashes -/

/-- The character, with a dash for an underscore. -/
def dash (c : Char) : Char := if c = '_' then '-' else c

/-- The text with dashes for underscores. -/
def dashed (s : String) : String := String.ofList (s.toList.map dash)

/-- The ranges from the first to the last, which is how they can be gone through quickly. -/
theorem inRanges_eq (ranges : Array (Nat × Nat)) (n : Nat) :
    inRanges ranges n = ranges.toList.any fun r => r.1 ≤ n && n ≤ r.2 := by
  rw [inRanges, ← Array.any_toList]

theorem inRanges_dash {ranges : Array (Nat × Nat)} (h : inRanges ranges 0x2D = inRanges ranges 0x5F)
    (c : Char) : inRanges ranges (dash c).toNat = inRanges ranges c.toNat := by
  unfold dash
  split
  · rename_i hc
    subst hc
    exact h
  · rfl

theorem startsCased_map_dash (cs : List Char) : startsCased (cs.map dash) = startsCased cs := by
  have hignored : ∀ c, inRanges Table.caseIgnorable (dash c).toNat =
      inRanges Table.caseIgnorable c.toNat := by
    refine inRanges_dash ?_
    rw [inRanges_eq, inRanges_eq]
    decide +kernel
  have hcased : ∀ c, inRanges Table.cased (dash c).toNat = inRanges Table.cased c.toNat := by
    refine inRanges_dash ?_
    rw [inRanges_eq, inRanges_eq]
    decide +kernel
  unfold startsCased
  -- What the tables hold does not matter any more.
  generalize Table.caseIgnorable = ignorable at hignored ⊢
  generalize Table.cased = cased at hcased ⊢
  induction cs with
  | nil => rfl
  | cons c cs ih =>
    rw [List.map_cons, List.dropWhile_cons, List.dropWhile_cons, hignored]
    by_cases hc : inRanges ignorable c.toNat = true
    · rw [if_pos hc, if_pos hc]
      exact ih
    · rw [if_neg hc, if_neg hc]
      exact hcased c

theorem lowerAt_map_dash : lowerAt (before.map dash) (dash c) (cs.map dash) = [dash c] ↔
    lowerAt before c cs = [c] := by
  by_cases hc : c = '_'
  · subst hc
    exact iff_of_true rfl rfl
  · have hsame : dash c = c := if_neg hc
    rw [hsame, lowerAt, lowerAt, startsCased_map_dash, startsCased_map_dash]

theorem lowerAfter_map_dash :
    lowerAfter (before.map dash) (cs.map dash) = cs.map dash ↔ lowerAfter before cs = cs := by
  induction cs generalizing before with
  | nil => simp [lowerAfter]
  | cons c cs ih =>
    rw [List.map_cons, lowerAfter_eq_cons_iff, lowerAfter_eq_cons_iff, lowerAt_map_dash,
      ← List.map_cons, ih]

/-- With dashes for underscores a text is its own lowercase as before. -/
theorem lowercase_dashed_iff (s : String) : lowercase (dashed s) = dashed s ↔ lowercase s = s := by
  have hlist : ∀ s : String, lowercase s = s ↔ lowerAfter [] s.toList = s.toList := by
    intro s
    rw [lowercase, lower, ← String.toList_inj, String.toList_ofList]
  have hdash : lowerAfter ([].map dash) (s.toList.map dash) = s.toList.map dash ↔
      lowerAfter [] s.toList = s.toList := lowerAfter_map_dash
  rw [hlist, hlist, dashed, String.toList_ofList]
  exact hdash

end CommandForge.Text
