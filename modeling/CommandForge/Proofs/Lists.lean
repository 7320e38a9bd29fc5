import Mathlib.Data.List.Forall2
/-!
# Lists

Facts about lists of any items: lists in step, whose items are related one by one
(`List.Forall₂`), lists that are cut apart at a separator or into blocks of one size, and what is
found first in a part of a list.
-/

namespace CommandForge

/-! ## Lists in step -/

section

variable {α β γ : Type} {R : α → β → Prop} {xs : List α} {ys : List β}

/-- What related items have in common, lists in step have in common item by item. -/
theorem map_eq_of_forall₂ {f : α → γ} {g : β → γ} (h : List.Forall₂ R xs ys)
    (hR : ∀ x y, R x y → g y = f x) : ys.map g = xs.map f := by
  induction h with
  | nil => rfl
  | cons hxy _ ih => rw [List.map_cons, List.map_cons, hR _ _ hxy, ih]

theorem exists_left_of_forall₂ (h : List.Forall₂ R xs ys) {y : β} (hy : y ∈ ys) :
    ∃ x ∈ xs, R x y := by
  induction h with
  | nil => contradiction
  | @cons x _ _ _ hxy _ ih =>
    rcases List.mem_cons.1 hy with rfl | hy
    · exact ⟨x, List.mem_cons_self, hxy⟩
    · obtain ⟨x', hx', hR⟩ := ih hy
      exact ⟨x', List.mem_cons_of_mem x hx', hR⟩

theorem exists_right_of_forall₂ (h : List.Forall₂ R xs ys) {x : α} (hx : x ∈ xs) :
    ∃ y ∈ ys, R x y :=
  exists_left_of_forall₂ h.flip hx

end

/-! ## Cutting apart -/

/-- Two lists that are equal up to and behind their first separator agree on both sides of it. -/
theorem append_cons_inj {α : Type} {s : α} {as bs cs ds : List α} (ha : s ∉ as) (hb : s ∉ bs)
    (h : as ++ s :: cs = bs ++ s :: ds) : as = bs ∧ cs = ds := by
  induction as generalizing bs with
  | nil =>
    cases bs with
    | nil => exact ⟨rfl, (List.cons.inj h).2⟩
    | cons b bs => exact absurd (List.cons.inj h).1 fun he => hb (he ▸ List.mem_cons_self)
  | cons a as ih =>
    cases bs with
    | nil => exact absurd (List.cons.inj h).1 fun he => ha (he ▸ List.mem_cons_self)
    | cons b bs =>
      obtain ⟨rfl, ht⟩ := List.cons.inj h
      obtain ⟨rfl, hcd⟩ := ih (fun hm => ha (List.mem_cons_of_mem a hm))
        (fun hm => hb (List.mem_cons_of_mem a hm)) ht
      exact ⟨rfl, hcd⟩

/-- Lists that are made of blocks of one size are equal block by block, so what their blocks tell
is equal too. -/
theorem map_eq_of_flatMap_eq {α β γ : Type} {f : α → List β} {g : α → γ} {width : Nat}
    (hw : 0 < width) (hf : ∀ x, (f x).length = width) {xs ys : List α}
    (hg : ∀ x ∈ xs, ∀ y ∈ ys, f x = f y → g x = g y) (h : xs.flatMap f = ys.flatMap f) :
    xs.map g = ys.map g := by
  -- A block has a positive size, so one list cannot go on where the other ends.
  have hne : ∀ x rest, (x :: rest).flatMap f ≠ [] := by
    intro x rest he
    have hlen := congrArg List.length he
    rw [List.flatMap_cons, List.length_append, hf x, List.length_nil] at hlen
    omega
  induction xs generalizing ys with
  | nil =>
    cases ys with
    | nil => rfl
    | cons y ys => exact absurd h.symm (hne y ys)
  | cons x xs ih =>
    cases ys with
    | nil => exact absurd h (hne x xs)
    | cons y ys =>
      rw [List.flatMap_cons, List.flatMap_cons] at h
      obtain ⟨hxy, ht⟩ := List.append_inj h ((hf x).trans (hf y).symm)
      have htail := ih (fun a ha b hb =>
        hg a (List.mem_cons_of_mem x ha) b (List.mem_cons_of_mem y hb)) ht
      rw [List.map_cons, List.map_cons, htail, hg x List.mem_cons_self y List.mem_cons_self hxy]

/-! ## What is found first -/

/-- What is found first among different items is found first among any of them that include it. -/
theorem find?_eq_of_sublist {α : Type} {p : α → Bool} {xs ys : List α} (h : xs.Sublist ys)
    (hn : ys.Nodup) (hx : ∀ y, ys.find? p = some y → y ∈ xs) : xs.find? p = ys.find? p := by
  induction h with
  | slnil => rfl
  | cons y hsub ih =>
    rw [List.nodup_cons] at hn
    by_cases hp : p y = true
    · exact absurd (hsub.subset (hx y (List.find?_cons_of_pos hp))) hn.1
    · rw [List.find?_cons_of_neg hp] at hx ⊢
      exact ih hn.2 hx
  | cons_cons y hsub ih =>
    rw [List.nodup_cons] at hn
    by_cases hp : p y = true
    · rw [List.find?_cons_of_pos hp, List.find?_cons_of_pos hp]
    · rw [List.find?_cons_of_neg hp] at hx ⊢
      rw [List.find?_cons_of_neg hp]
      refine ih hn.2 fun z hz => ?_
      rcases List.mem_cons.1 (hx z hz) with rfl | hmem
      · exact absurd (List.find?_some hz) hp
      · exact hmem

end CommandForge
