import CommandForge.Proofs.Identifier.Normalized
/-!
# Valid identifiers

Which texts are identifiers (`IsIdentifier`), and the first thing wrong with one that is not
(`HasFault`). The check decides the one and reports the other, and what it accepts has a normalized
form.
-/

namespace CommandForge.Identifier

/-- An ASCII letter with ASCII letters and digits behind it. -/
def IsIdentifier (s : String) : Prop :=
  ∃ c cs, s.toList = c :: cs ∧ c.isAlpha = true ∧ ∀ d ∈ cs, d.isAlphanum = true

/-- The first thing that keeps a text from being an identifier. -/
inductive HasFault (s : String) : IdentifierFault → Prop
  | empty (h : s = "") : HasFault s .empty
  | firstNotLetter {c : Char} {cs : List Char} (h : s.toList = c :: cs) (hc : c.isAlpha = false) :
      HasFault s .firstNotLetter
  | unexpected {c d : Char} {before after : List Char} (h : s.toList = c :: before ++ d :: after)
      (hc : c.isAlpha = true) (hbefore : ∀ b ∈ before, b.isAlphanum = true)
      (hd : d.isAlphanum = false) : HasFault s (.unexpected d)

/-- The normalized form of an identifier. -/
def normalized (s : String) : String := String.ofList (snake s.toList)

variable {s w : String} {fault : IdentifierFault} {e : InvalidIdentifier}

theorem fault?_eq_none_iff_isIdentifier : fault? s.toList = none ↔ IsIdentifier s := by
  unfold IsIdentifier
  cases s.toList with
  | nil => simp [fault?]
  | cons c cs =>
    rw [fault?_eq_none_iff]
    constructor
    · rintro ⟨hc, hcs⟩
      exact ⟨c, cs, rfl, hc, hcs⟩
    · rintro ⟨c', cs', hcons, hc, hcs⟩
      obtain ⟨rfl, rfl⟩ := List.cons.inj hcons
      exact ⟨hc, hcs⟩

/-- The fault that is found is the first one there is. -/
theorem fault?_eq_some_iff : fault? s.toList = some fault ↔ HasFault s fault := by
  constructor
  · intro h
    cases hs : s.toList with
    | nil =>
      rw [hs, fault?, Option.some.injEq] at h
      exact h ▸ .empty (String.toList_eq_nil_iff.1 hs)
    | cons c cs =>
      rw [hs, fault?] at h
      split at h
      · rename_i hc
        obtain rfl := Option.some.inj h
        exact .firstNotLetter hs (by simpa using hc)
      · rename_i hc
        obtain ⟨d, hd, rfl⟩ := Option.map_eq_some_iff.1 h
        obtain ⟨hbad, before, after, rfl, hbefore⟩ := List.find?_eq_some_iff_append.1 hd
        exact .unexpected hs (by simpa using hc) (by simpa using hbefore) (by simpa using hbad)
  · rintro (rfl | ⟨h, hc⟩ | ⟨h, hc, hbefore, hd⟩)
    · rfl
    · simp [h, fault?, hc]
    · rename_i d before after
      have hfind : (before ++ d :: after).find? (fun d => !d.isAlphanum) = some d :=
        List.find?_eq_some_iff_append.2 ⟨by simp [hd], before, after, rfl, by simpa using hbefore⟩
      rw [h, List.cons_append, fault?, hc, hfind]
      rfl

/-- The check accepts exactly the identifiers. -/
theorem check_eq_ok_iff : check s = .ok () ↔ IsIdentifier s := by
  rw [← fault?_eq_none_iff_isIdentifier, check]
  cases fault? s.toList <;> simp

/-- Exactly the identifiers have a normalized form. -/
theorem normalize_eq_ok_iff_isIdentifier :
    normalize s = .ok w ↔ IsIdentifier s ∧ w = normalized s := by
  rw [normalize_eq_ok_iff, fault?_eq_none_iff_isIdentifier, normalized]

theorem normalize_eq_error_iff :
    normalize s = .error e ↔ ∃ fault, HasFault s fault ∧ e = ⟨s, fault⟩ := by
  simp only [← fault?_eq_some_iff, normalize]
  cases fault? s.toList <;> simp [eq_comm]

theorem HasFault.unique {fault' : IdentifierFault} (h : HasFault s fault)
    (h' : HasFault s fault') : fault = fault' :=
  Option.some.inj ((fault?_eq_some_iff.2 h).symm.trans (fault?_eq_some_iff.2 h'))

theorem HasFault.not_isIdentifier (h : HasFault s fault) : ¬ IsIdentifier s := by
  rw [← fault?_eq_none_iff_isIdentifier, fault?_eq_some_iff.2 h]
  exact Option.some_ne_none fault

end CommandForge.Identifier
