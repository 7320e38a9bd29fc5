import CommandForge.Proofs.Identifier.Normalized
/-!
# Characters of names

The names that a target writes are identifiers of a schema, normalized names, and names with their
words joined in one of two ways. All are made of ASCII letters, digits and underscores.
-/

namespace CommandForge

namespace Identifier

/-- A character of any name that a target writes. -/
def isNameChar (c : Char) : Bool := c.isAlphanum || c == '_'

/-- A text is made of name characters. -/
def IsName (s : String) : Prop := ∀ c ∈ s.toList, isNameChar c = true

/-- A name holds no other character. -/
theorem IsName.notMem {s : String} (h : IsName s) {c : Char} (hc : isNameChar c = false) :
    c ∉ s.toList := by
  intro hm
  rw [h c hm] at hc
  exact absurd hc (by decide)

theorem isName_lit {s : String} {cs : List Char} (h : s = String.ofList cs)
    (hcs : cs.all isNameChar = true) : IsName s := by
  rw [h, IsName, String.toList_ofList]
  exact List.all_eq_true.1 hcs

theorem IsName.append {s t : String} (hs : IsName s) (ht : IsName t) : IsName (s ++ t) := by
  intro c hc
  rw [String.toList_append, List.mem_append] at hc
  exact hc.elim (hs c) (ht c)

theorem isNameChar_of_isAlphanum {c : Char} (h : c.isAlphanum = true) : isNameChar c = true :=
  Bool.or_eq_true_iff.2 (.inl h)

theorem isNameChar_of_isWireChar {c : Char} (h : isWireChar c = true) : isNameChar c = true := by
  rcases isWireChar_cases h with h | h | rfl
  · exact isNameChar_of_isAlphanum (isAlphanum_of_isAlpha (isAlpha_of_isLower h))
  · exact isNameChar_of_isAlphanum (isAlphanum_of_isDigit h)
  · decide

theorem toNat_lt_of_isNameChar {c : Char} (h : isNameChar c = true) : c.toNat < 0x80 := by
  simp only [isNameChar, Bool.or_eq_true, beq_iff_eq] at h
  rcases h with h | rfl
  · exact toNat_lt_of_isAlphanum h
  · decide

theorem isNameChar_toUpper {c : Char} (h : isNameChar c = true) : isNameChar c.toUpper = true :=
  forall_ascii (p := fun c => isNameChar c = true → isNameChar c.toUpper = true) (by decide)
    (toNat_lt_of_isNameChar h) h

theorem isNameChar_of_mem_upperChar {c d : Char} (h : isNameChar c = true)
    (hd : d ∈ Text.upperChar c) : isNameChar d = true := by
  rw [Text.upperChar, if_pos (toNat_lt_of_isNameChar h), List.mem_singleton] at hd
  exact hd ▸ isNameChar_toUpper h

/-- Joining words puts one more character, perhaps capitalized, before what it goes on with. -/
theorem isNameChar_of_mem_next {capitalize : Bool} {c d : Char} {next : List Char}
    (hc : isNameChar c = true) (hnext : ∀ d ∈ next, isNameChar d = true)
    (hd : d ∈ if capitalize then Text.upperChar c ++ next else c :: next) :
    isNameChar d = true := by
  split at hd
  · rcases List.mem_append.1 hd with hd | hd
    · exact isNameChar_of_mem_upperChar hc hd
    · exact hnext d hd
  · rcases List.mem_cons.1 hd with rfl | hd
    · exact hc
    · exact hnext d hd

theorem isNameChar_of_mem_camelChars {started capitalize : Bool} {cs : List Char}
    (h : ∀ c ∈ cs, isNameChar c = true) :
    ∀ d ∈ camelChars started capitalize cs, isNameChar d = true := by
  induction cs generalizing started capitalize with
  | nil => simp [camelChars]
  | cons c cs ih =>
    have hcs : ∀ d ∈ cs, isNameChar d = true := fun d hd => h d (List.mem_cons_of_mem c hd)
    intro d hd
    rw [camelChars] at hd
    split at hd
    · exact ih hcs d hd
    · exact isNameChar_of_mem_next (h c List.mem_cons_self) (ih hcs) hd

theorem isNameChar_of_mem_pascalChars {capitalize : Bool} {cs : List Char}
    (h : ∀ c ∈ cs, isNameChar c = true) : ∀ d ∈ pascalChars capitalize cs, isNameChar d = true := by
  induction cs generalizing capitalize with
  | nil => simp [pascalChars]
  | cons c cs ih =>
    have hcs : ∀ d ∈ cs, isNameChar d = true := fun d hd => h d (List.mem_cons_of_mem c hd)
    intro d hd
    rw [pascalChars] at hd
    split at hd
    · exact ih hcs d hd
    · exact isNameChar_of_mem_next (h c List.mem_cons_self) (ih hcs) hd

/-- A normalized name is a name. -/
theorem isName_of_isWireChar {w : String} (h : ∀ c ∈ w.toList, isWireChar c = true) : IsName w :=
  fun c hc => isNameChar_of_isWireChar (h c hc)

theorem isName_camel {s : String} (h : IsName s) : IsName (camel s) := by
  intro d hd
  rw [camel, String.toList_ofList] at hd
  exact isNameChar_of_mem_camelChars h d hd

theorem isName_pascal {s : String} (h : IsName s) : IsName (pascal s) := by
  intro d hd
  rw [pascal, String.toList_ofList] at hd
  exact isNameChar_of_mem_pascalChars h d hd

end Identifier

end CommandForge
