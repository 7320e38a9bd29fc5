import CommandForge.Proofs.Identifier.Boundaries
import CommandForge.Proofs.Identifier.NameChars
/-!
# Joined words

On any text, joining words forgets where some of them start: `a_1` and `a1` become one name. A
normalized name starts with a small letter and has a small letter behind every underscore
(`IsSnake`), so each word but the first is seen by its capital once it is joined. `unjoin` finds
the words again, whichever way they were joined (`unjoin_pascal`, `unjoin_camel`); hence different
normalized names stay different (`pascal_injective`, `camel_injective`).
-/

namespace CommandForge.Identifier

/-! ## The shape of normalized names -/

/-- What may follow the first letter of a normalized name: small letters and digits, and
underscores with a small letter behind them. -/
inductive SnakeTail : List Char → Prop where
  | nil : SnakeTail []
  | small {c : Char} {cs : List Char} (hc : isSmall c = true) (h : SnakeTail cs) :
      SnakeTail (c :: cs)
  | word {c : Char} {cs : List Char} (hc : c.isLower = true) (h : SnakeTail cs) :
      SnakeTail ('_' :: c :: cs)

/-- A small letter and a tail: the shape of a normalized name. -/
def IsSnake (cs : List Char) : Prop :=
  ∃ c tail, cs = c :: tail ∧ c.isLower = true ∧ SnakeTail tail

theorem isSmall_toLower {c : Char} (h : c.isAlphanum = true) : isSmall c.toLower = true :=
  forall_ascii (p := fun c => c.isAlphanum = true → isSmall c.toLower = true) (by decide)
    (toNat_lt_of_isAlphanum h) h

theorem isLower_toLower {c : Char} (h : c.isAlpha = true) : c.toLower.isLower = true :=
  forall_ascii (p := fun c => c.isAlpha = true → c.toLower.isLower = true) (by decide)
    (toNat_lt_of_isAlphanum (isAlphanum_of_isAlpha h)) h

/-- An underscore is only put before a capital. -/
theorem snakeTail_behind {b : Char} {cs : List Char} (h : ∀ c ∈ cs, c.isAlphanum = true) :
    SnakeTail ((behind b cs).map Char.toLower) := by
  induction cs generalizing b with
  | nil => exact .nil
  | cons c cs ih =>
    obtain ⟨hc, hcs⟩ := List.forall_mem_cons.1 h
    rw [behind, gap]
    split
    · rename_i hstarts
      have hupper : c.isUpper = true := (Bool.and_eq_true _ _ ▸ hstarts).1
      have hlower : c.toLower.isLower = true := isLower_toLower (isAlpha_of_isUpper hupper)
      have hunderscore : '_'.toLower = '_' := by decide
      simpa [hunderscore] using SnakeTail.word hlower (ih hcs)
    · exact .small (isSmall_toLower hc) (ih hcs)

theorem isSnake_of_normalize {s w : String} (h : normalize s = .ok w) : IsSnake w.toList := by
  obtain ⟨hs, rfl⟩ := normalize_eq_ok_iff.1 h
  have halnum := isAlphanum_of_fault?_eq_none hs
  rw [String.toList_ofList, snake, Text.lowerAscii, separateCapitals_separateTails]
  cases hcs : s.toList with
  | nil =>
    rw [hcs] at hs
    cases hs
  | cons c cs =>
    rw [hcs] at hs halnum
    have hc : c.isAlpha = true := ((fault?_eq_none_iff c cs).1 hs).1
    have htail := snakeTail_behind (b := c) (List.forall_mem_cons.1 halnum).2
    exact ⟨_, _, rfl, isLower_toLower hc, htail⟩

theorem ne_underscore_of_isSmall {c : Char} (h : isSmall c = true) : c ≠ '_' := by
  rintro rfl
  exact absurd h (by decide)

/-- A test for the tail of a normalized name. -/
def isSnakeTail : List Char → Bool
  | [] => true
  | '_' :: c :: cs => c.isLower && isSnakeTail cs
  | c :: cs => isSmall c && isSnakeTail cs

/-- A test for the shape of a normalized name. -/
def isSnake : List Char → Bool
  | [] => false
  | c :: cs => c.isLower && isSnakeTail cs

theorem SnakeTail.isSnakeTail_eq {cs : List Char} (h : SnakeTail cs) : isSnakeTail cs = true := by
  induction h with
  | nil => rfl
  | small hc _ ih =>
    rw [isSnakeTail, hc, ih]
    · rfl
    · exact fun _ _ he => absurd he (ne_underscore_of_isSmall hc)
  | word hc _ ih =>
    rw [isSnakeTail, hc, ih]
    rfl

theorem IsSnake.isSnake_eq {cs : List Char} (h : IsSnake cs) : isSnake cs = true := by
  obtain ⟨c, tail, rfl, hc, htail⟩ := h
  rw [isSnake, hc, htail.isSnakeTail_eq]
  rfl

/-- A normalized name is no text that fails the test. -/
theorem IsSnake.ne {w v : String} (h : IsSnake w.toList) (hv : isSnake v.toList = false) :
    w ≠ v := by
  rintro rfl
  rw [h.isSnake_eq] at hv
  cases hv

/-! ## Reading joined words -/

/-- Joined words with an underscore before each capital, in lowercase. -/
def unjoin (cs : List Char) : List Char :=
  cs.flatMap fun c => if c.isUpper then ['_', c.toLower] else [c]

theorem unjoin_cons_small {c : Char} (h : isSmall c = true) (cs : List Char) :
    unjoin (c :: cs) = c :: unjoin cs := by
  simp [unjoin, isUpper_eq_false_of_isSmall h]

theorem isUpper_toUpper {c : Char} (h : c.isLower = true) : c.toUpper.isUpper = true :=
  forall_ascii (p := fun c => c.isLower = true → c.toUpper.isUpper = true) (by decide)
    (toNat_lt_of_isLower h) h

theorem toLower_toUpper {c : Char} (h : c.isLower = true) : c.toUpper.toLower = c :=
  forall_ascii (p := fun c => c.isLower = true → c.toUpper.toLower = c) (by decide)
    (toNat_lt_of_isLower h) h

theorem unjoin_cons_toUpper {c : Char} (h : c.isLower = true) (cs : List Char) :
    unjoin (c.toUpper :: cs) = '_' :: c :: unjoin cs := by
  simp [unjoin, isUpper_toUpper h, toLower_toUpper h]

theorem upperChar_of_isLower {c : Char} (h : c.isLower = true) :
    Text.upperChar c = [c.toUpper] := by
  rw [Text.upperChar, if_pos (toNat_lt_of_isLower h)]

theorem pascalChars_small {c : Char} (h : isSmall c = true) (cs : List Char) :
    pascalChars false (c :: cs) = c :: pascalChars false cs := by
  rw [pascalChars, if_neg (ne_underscore_of_isSmall h)]
  rfl

theorem pascalChars_letter {c : Char} (h : c.isLower = true) (cs : List Char) :
    pascalChars true (c :: cs) = c.toUpper :: pascalChars false cs := by
  rw [pascalChars, if_neg (ne_underscore_of_isSmall (isSmall_of_isLower h)),
    upperChar_of_isLower h]
  rfl

theorem pascalChars_word {c : Char} (h : c.isLower = true) (cs : List Char) :
    pascalChars false ('_' :: c :: cs) = c.toUpper :: pascalChars false cs :=
  pascalChars_letter h cs

namespace SnakeTail

variable {cs : List Char}

theorem unjoin_pascalChars (h : SnakeTail cs) : unjoin (pascalChars false cs) = cs := by
  induction h with
  | nil => rfl
  | small hc _ ih => rw [pascalChars_small hc, unjoin_cons_small hc, ih]
  | word hc _ ih => rw [pascalChars_word hc, unjoin_cons_toUpper hc, ih]

/-- Behind the first character, the two ways to join words are one. -/
theorem camelChars_eq (h : SnakeTail cs) : camelChars true false cs = pascalChars false cs := by
  induction h with
  | nil => rfl
  | small hc _ ih =>
    rw [pascalChars_small hc, camelChars, if_neg (ne_underscore_of_isSmall hc), ← ih]
    rfl
  | word hc _ ih =>
    rw [pascalChars_word hc, camelChars, if_pos rfl, camelChars,
      if_neg (ne_underscore_of_isSmall (isSmall_of_isLower hc)), upperChar_of_isLower hc, ← ih]
    rfl

/-- No underscore is left to join at. -/
theorem pascalChars_pascalChars (h : SnakeTail cs) :
    pascalChars false (pascalChars false cs) = pascalChars false cs := by
  induction h with
  | nil => rfl
  | small hc _ ih => rw [pascalChars_small hc, pascalChars_small hc, ih]
  | @word c cs hc _ ih =>
    have hne : c.toUpper ≠ '_' := by
      intro he
      have hupper := isUpper_toUpper hc
      rw [he] at hupper
      exact absurd hupper (by decide)
    rw [pascalChars_word hc, pascalChars, if_neg hne, ih]
    rfl

end SnakeTail

/-! ## Joined names -/

theorem unjoin_pascal {w : String} (h : IsSnake w.toList) :
    unjoin (pascal w).toList = '_' :: w.toList := by
  obtain ⟨c, tail, hw, hc, htail⟩ := h
  rw [pascal, String.toList_ofList, hw, pascalChars_letter hc, unjoin_cons_toUpper hc,
    htail.unjoin_pascalChars]

theorem toList_camel {w : String} {c : Char} {tail : List Char} (hw : w.toList = c :: tail)
    (hc : c.isLower = true) (htail : SnakeTail tail) :
    (camel w).toList = c :: pascalChars false tail := by
  rw [camel, String.toList_ofList, hw, camelChars,
    if_neg (ne_underscore_of_isSmall (isSmall_of_isLower hc)), ← htail.camelChars_eq]
  rfl

theorem unjoin_camel {w : String} (h : IsSnake w.toList) : unjoin (camel w).toList = w.toList := by
  obtain ⟨c, tail, hw, hc, htail⟩ := h
  rw [toList_camel hw hc htail, unjoin_cons_small (isSmall_of_isLower hc),
    htail.unjoin_pascalChars, hw]

theorem pascal_injective {v w : String} (hv : IsSnake v.toList) (hw : IsSnake w.toList)
    (h : pascal v = pascal w) : v = w := by
  have hunjoin := congrArg (fun s => unjoin s.toList) h
  simp only [unjoin_pascal hv, unjoin_pascal hw] at hunjoin
  exact String.toList_inj.1 (List.cons.inj hunjoin).2

theorem camel_injective {v w : String} (hv : IsSnake v.toList) (hw : IsSnake w.toList)
    (h : camel v = camel w) : v = w := by
  have hunjoin := congrArg (fun s => unjoin s.toList) h
  simp only [unjoin_camel hv, unjoin_camel hw] at hunjoin
  exact String.toList_inj.1 hunjoin

/-- A name whose words are joined is one word, of which the first letter is left to capitalize. -/
theorem pascal_camel {w : String} (h : IsSnake w.toList) : pascal (camel w) = pascal w := by
  obtain ⟨c, tail, hw, hc, htail⟩ := h
  rw [pascal, pascal, toList_camel hw hc htail, hw, pascalChars_letter hc, pascalChars_letter hc,
    htail.pascalChars_pascalChars]

end CommandForge.Identifier
