import Mathlib.Data.List.Chain
import CommandForge.Proofs.Identifier.Joined
import CommandForge.Proofs.Identifier.Valid
import CommandForge.Text.Lines
/-!
# Joined names as identifiers

A normalized name whose words are joined, each capitalized, is an identifier again. It is normalized
to the same name unless two neighbouring words run together (`RunTogether`): the capital of a word
stands behind the capital of a word of one letter, and no small letter follows it. That is the rule
for the start of a word (`startsBetween`) at the place where two words were joined, and the words
of the name are gone through in order: behind the part of a word that was read (`word`), the capital
of the next one is separated exactly when that part is longer than a letter or a small letter
follows (`startsBetween_toUpper`).
-/

namespace CommandForge.Identifier

open Text (split split_append_cons split_of_notMem split_ne_nil)

/-- Two words of which the first is one letter, and the second is one letter too or goes on with a
digit. -/
def RunTogether (u v : List Char) : Prop :=
  u.length = 1 ∧ (v.length = 1 ∨ v[1]?.any Char.isDigit = true)

instance (u v : List Char) : Decidable (RunTogether u v) :=
  inferInstanceAs (Decidable (u.length = 1 ∧ (v.length = 1 ∨ v[1]?.any Char.isDigit = true)))

/-! ## Joined names -/

theorem isLower_iff_of_isSmall {c : Char} (h : isSmall c = true) :
    c.isLower = true ↔ ¬ c.isDigit = true :=
  forall_ascii (p := fun c => isSmall c = true → (c.isLower = true ↔ ¬ c.isDigit = true))
    (by decide) (toNat_lt_of_isAlphanum (isAlphanum_of_isSmall h)) h

theorem SnakeTail.isAlphanum_of_mem_pascalChars {cs : List Char} (h : SnakeTail cs) :
    ∀ c ∈ pascalChars false cs, c.isAlphanum = true := by
  induction h with
  | nil => simp [pascalChars]
  | small hc _ ih =>
    rw [pascalChars_small hc, List.forall_mem_cons]
    exact ⟨isAlphanum_of_isSmall hc, ih⟩
  | word hc _ ih =>
    rw [pascalChars_word hc, List.forall_mem_cons]
    exact ⟨isAlphanum_of_isAlpha (isAlpha_of_isUpper (isUpper_toUpper hc)), ih⟩

theorem toList_pascal {w : String} {c : Char} {tail : List Char} (hw : w.toList = c :: tail)
    (hc : c.isLower = true) : (pascal w).toList = c.toUpper :: pascalChars false tail := by
  rw [pascal, String.toList_ofList, hw, pascalChars_letter hc]

theorem isIdentifier_pascal {w : String} (h : IsSnake w.toList) : IsIdentifier (pascal w) := by
  obtain ⟨c, tail, hw, hc, htail⟩ := h
  exact ⟨_, _, toList_pascal hw hc, isAlpha_of_isUpper (isUpper_toUpper hc),
    htail.isAlphanum_of_mem_pascalChars⟩

/-! ## Where two words meet -/

section Words

variable {cs word : List Char} {b c : Char}

/-- The next word, as far as it is known: nothing or a small letter or digit goes on behind its
first letter, and in the joined name nothing but that is no capital. -/
theorem SnakeTail.next_cases (h : SnakeTail cs) :
    (∃ words, split '_' cs = [] :: words ∧
        (pascalChars false cs).head?.any Char.isLower = false) ∨
      ∃ d front words, split '_' cs = (d :: front) :: words ∧ isSmall d = true ∧
        (pascalChars false cs).head? = some d := by
  cases h with
  | nil => exact .inl ⟨[], rfl, rfl⟩
  | @small d cs hd _ =>
    obtain ⟨front, words, hsplit⟩ := List.exists_cons_of_ne_nil (split_ne_nil '_' cs)
    refine .inr ⟨d, front, words, ?_, hd, by rw [pascalChars_small hd, List.head?_cons]⟩
    simp only [split, if_neg (ne_underscore_of_isSmall hd), hsplit]
  | @word d cs hd _ =>
    refine .inl ⟨split '_' (d :: cs), by rw [split, if_pos rfl], ?_⟩
    rw [pascalChars_word hd, List.head?_cons, Option.any_some]
    exact (Bool.or_eq_false_iff.1 (isSmall_eq_false_of_isUpper (isUpper_toUpper hd))).1

/-- The capital of a word is separated from the part of a word before it exactly when the two do not
run together. -/
theorem startsBetween_toUpper (hb : isSmall b = true ↔ word.length ≠ 1) (hc : c.isLower = true)
    (h : SnakeTail cs) :
    startsBetween b c.toUpper (pascalChars false cs).head? = true ↔
      ∀ v ∈ (split '_' (c :: cs)).head?, ¬ RunTogether word v := by
  have hne : c ≠ '_' := ne_underscore_of_isSmall (isSmall_of_isLower hc)
  rw [startsBetween, isUpper_toUpper hc, Bool.true_and, Bool.or_eq_true, hb]
  rcases h.next_cases with ⟨words, hsplit, hhead⟩ | ⟨d, front, words, hsplit, hd, hhead⟩
  · have hwords : split '_' (c :: cs) = [c] :: words := by simp only [split, if_neg hne, hsplit]
    simp [hwords, hhead, RunTogether]
  · have hwords : split '_' (c :: cs) = (c :: d :: front) :: words := by
      simp only [split, if_neg hne, hsplit]
    by_cases hone : word.length = 1 <;>
      simp [hwords, hhead, RunTogether, isLower_iff_of_isSmall hd, hone]

/-- **The rest of a joined name.** Behind a part of a word, the words are separated again exactly
when no two neighbours run together. -/
theorem map_behind_pascalChars_eq_iff (h : SnakeTail cs) (hword : word ≠ []) (hline : '_' ∉ word)
    (hb : isSmall b = true ↔ word.length ≠ 1) :
    (behind b (pascalChars false cs)).map Char.toLower = cs ↔
      (split '_' (word ++ cs)).IsChain fun u v => ¬ RunTogether u v := by
  induction h generalizing word b with
  | nil => simp [pascalChars, behind, split_of_notMem hline]
  | @small c cs hc _ ih =>
    have hnext : (behind c (pascalChars false cs)).map Char.toLower = cs ↔
        (split '_' (word ++ [c] ++ cs)).IsChain fun u v => ¬ RunTogether u v :=
      ih (by simp) (by simpa [hline] using (ne_underscore_of_isSmall hc).symm)
        (by simpa [hc] using hword)
    have hlower : c.toLower = c := toLower_of_isWireChar (isWireChar_of_isSmall hc)
    have hgap : startsBetween b c (pascalChars false cs).head? = false := by
      rw [startsBetween, isUpper_eq_false_of_isSmall hc, Bool.false_and]
    rw [List.append_assoc, List.singleton_append] at hnext
    rw [pascalChars_small hc, behind, hgap, ← hnext]
    simp [gap, hlower]
  | @word c cs hc htail ih =>
    have hupper := isUpper_toUpper hc
    have hlower := toLower_toUpper hc
    have hne : c ≠ '_' := ne_underscore_of_isSmall (isSmall_of_isLower hc)
    have hunderscore : '_'.toLower = '_' := by decide
    have hnext : (behind c.toUpper (pascalChars false cs)).map Char.toLower = cs ↔
        (split '_' ([c] ++ cs)).IsChain fun u v => ¬ RunTogether u v :=
      ih (by simp) (by simpa using hne.symm) (by simp [isSmall_eq_false_of_isUpper hupper])
    rw [List.singleton_append] at hnext
    rw [split_append_cons, split_of_notMem hline, List.singleton_append, List.isChain_cons,
      ← startsBetween_toUpper hb hc htail, ← hnext, pascalChars_word hc, behind]
    cases startsBetween b c.toUpper (pascalChars false cs).head? with
    | false => simp [gap, hlower, hne]
    | true => simp [gap, hlower, hunderscore]

end Words

/-- **The limits of the round trip.** The words of a normalized name, joined and each capitalized,
make up an identifier, and that is normalized to the name exactly when no two neighbouring words
run together. -/
theorem normalize_pascal_iff {s : String} (h : check s = .ok ()) :
    ∃ w, normalize s = .ok w ∧ check (pascal w) = .ok () ∧
      (normalize (pascal w) = .ok w ↔
        (split '_' w.toList).IsChain fun u v => ¬ RunTogether u v) := by
  have hs := normalize_eq_ok_iff_isIdentifier.2 ⟨check_eq_ok_iff.1 h, rfl⟩
  have hsnake := isSnake_of_normalize hs
  have hpascal := isIdentifier_pascal hsnake
  refine ⟨normalized s, hs, check_eq_ok_iff.2 hpascal, ?_⟩
  generalize normalized s = w at hsnake hpascal ⊢
  obtain ⟨c, tail, hw, hc, htail⟩ := hsnake
  have hrest : (behind c.toUpper (pascalChars false tail)).map Char.toLower = tail ↔
      (split '_' ([c] ++ tail)).IsChain fun u v => ¬ RunTogether u v :=
    map_behind_pascalChars_eq_iff htail (by simp)
      (by simpa using (ne_underscore_of_isSmall (isSmall_of_isLower hc)).symm)
      (by simp [isSmall_eq_false_of_isUpper (isUpper_toUpper hc)])
  rw [List.singleton_append, ← hw] at hrest
  have hnormalized : (normalized (pascal w)).toList =
      c :: (behind c.toUpper (pascalChars false tail)).map Char.toLower := by
    rw [normalized, String.toList_ofList, snake, Text.lowerAscii, separateCapitals_separateTails,
      toList_pascal hw hc, spaced, List.map_cons, toLower_toUpper hc]
  rw [normalize_eq_ok_iff_isIdentifier, and_iff_right hpascal, ← hrest, ← String.toList_inj,
    hnormalized, hw, List.cons.injEq, and_iff_right rfl, eq_comm]

/-- A word of one letter runs together with one that goes on with a digit. -/
theorem normalize_pascal_iff_aB2c :
    check "aB2c" = .ok () ∧ normalize (pascal "a_b2c") = .ok "ab2c" ∧
      ∃ w, normalize "aB2c" = .ok w ∧ check (pascal w) = .ok () ∧
        (normalize (pascal w) = .ok w ↔
          (split '_' w.toList).IsChain fun u v => ¬ RunTogether u v) :=
  ⟨by decide +kernel, by decide +kernel, normalize_pascal_iff (by decide +kernel)⟩

end CommandForge.Identifier
