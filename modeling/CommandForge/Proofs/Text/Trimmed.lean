import Mathlib.Data.List.DropRight
import CommandForge.Text.Blank
/-!
# Trimmed texts

A text is trimmed when no blank character stands at either end of it (`IsTrimmed`). Trimming gives
such a text and leaves it alone.
-/

namespace CommandForge.Text

/-- No blank character stands at either end. -/
structure IsTrimmed (cs : List Char) : Prop where
  head : ∀ c ∈ cs.head?, isBlank c = false
  last : ∀ c ∈ cs.getLast?, isBlank c = false

theorem trimEnd_eq_rdropWhile (cs : List Char) : trimEnd cs = cs.rdropWhile isBlank := rfl

/-- Trimming leaves no blank character at either end. -/
theorem isTrimmed_trim (cs : List Char) : IsTrimmed (trim cs) := by
  constructor
  · intro c hc
    -- What is left of the trimmed start still starts as that does.
    have hprefix : trim cs <+: trimStart cs := List.rdropWhile_prefix isBlank _
    have hne : trim cs ≠ [] := by
      rintro h
      simp [h] at hc
    have hstart : (trimStart cs).head? = some c := by
      obtain ⟨rest, hrest⟩ := hprefix
      rw [← hrest, List.head?_append_of_ne_nil _ hne]
      exact hc
    have hhead := List.head?_dropWhile_not isBlank cs
    rw [show cs.dropWhile isBlank = trimStart cs from rfl, hstart] at hhead
    simpa using hhead
  · intro c hc
    have hne : trim cs ≠ [] := by
      rintro h
      simp [h] at hc
    have hlast : ¬ isBlank ((trim cs).getLast hne) = true :=
      List.rdropWhile_last_not isBlank (trimStart cs) hne
    have hgetLast : (trim cs).getLast hne = c :=
      Option.some.inj ((List.getLast?_eq_getLast_of_ne_nil hne).symm.trans hc)
    rw [hgetLast] at hlast
    simpa using hlast

/-- A trimmed text stays as it is. -/
theorem IsTrimmed.trim_eq {cs : List Char} (h : IsTrimmed cs) : trim cs = cs := by
  have hstart : trimStart cs = cs := by
    cases cs with
    | nil => rfl
    | cons c rest => exact List.dropWhile_cons_of_neg (by simp [h.head c rfl])
  rw [trim, hstart, trimEnd_eq_rdropWhile, List.rdropWhile_eq_self_iff]
  intro hne
  rw [h.last _ (List.getLast?_eq_getLast_of_ne_nil hne)]
  exact Bool.false_ne_true

theorem trim_trim (cs : List Char) : trim (trim cs) = trim cs := (isTrimmed_trim cs).trim_eq

/-- Nothing is left of a text exactly when all of it is blank. -/
theorem isEmpty_trim (cs : List Char) : (trim cs).isEmpty = cs.all isBlank := by
  have hall : (trim cs).isEmpty = true ↔ ∀ c ∈ cs, isBlank c = true := by
    rw [trim, trimEnd, trimStart, List.isEmpty_iff, List.reverse_eq_nil_iff,
      List.dropWhile_eq_nil_iff]
    constructor
    · intro h c hc
      rw [← List.takeWhile_append_dropWhile (p := isBlank) (l := cs)] at hc
      rcases List.mem_append.1 hc with hc | hc
      · exact List.mem_takeWhile_imp hc
      · exact h c (List.mem_reverse.2 hc)
    · intro h c hc
      exact h c ((List.dropWhile_sublist _).subset (List.mem_reverse.1 hc))
  rw [Bool.eq_iff_iff, hall, List.all_eq_true]

end CommandForge.Text
