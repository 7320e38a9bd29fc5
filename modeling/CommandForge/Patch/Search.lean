import CommandForge.Patch.Edit
/-!
# Searching for a short script

Common items at both ends are kept. What is between is split at a point that a shortest script
passes, and each part is done on its own. The point is found by going from both corners at once:
after `d` edits, a frontier holds how many old items the best way on each diagonal has used up, and
where the two frontiers meet is the point. The diagonal of a way is the number of its old items
less that of its new ones.
-/

namespace CommandForge.Patch

/-- How far the ways of one side have come, by diagonal. -/
structure Frontier where
  /-- The diagonal of the first entry, negated. -/
  offset : Nat
  reached : Array Nat

namespace Frontier

/-- A frontier for diagonals up to `bound` on either side. -/
def start (bound : Nat) : Frontier := ⟨bound + 1, Array.replicate (2 * bound + 3) 0⟩

/-- The old items used up on diagonal `k`. -/
def get (f : Frontier) (k : Int) : Nat := f.reached.getD (k + f.offset).toNat 0

/-- Records `x` for diagonal `k`. -/
def set (f : Frontier) (k : Int) (x : Nat) : Frontier :=
  { f with reached := f.reached.setIfInBounds (k + f.offset).toNat x }

/-- Where the best way with `d` edits enters diagonal `k`. -/
def enter (f : Frontier) (d : Nat) (k : Int) : Nat :=
  if k = -(d : Int) ∨ (k ≠ d ∧ f.get (k - 1) < f.get (k + 1)) then f.get (k + 1)
  else f.get (k - 1) + 1

end Frontier

/-- The diagonals of ways with `d` edits, the greatest first. -/
def diagonals (d : Nat) : List Int :=
  (List.range (d + 1)).map fun (i : Nat) => (d : Int) - 2 * (i : Int)

/-- A pair of ranges: `n` old items from `i` on and `m` new ones from `j` on. -/
structure Window where
  i : Nat
  n : Nat
  j : Nat
  m : Nat
  deriving DecidableEq, Repr

variable {α : Type} [DecidableEq α]

namespace Window

/-- The difference of the sizes: the diagonal on which all is used up. -/
def delta (w : Window) : Int := (w.n : Int) - w.m

/-- How far a way from the front goes on without an edit behind `x` old and `y` new items. -/
def slideForth (old new : Array α) (w : Window) (x : Nat) (y : Int) : Nat :=
  if x < w.n ∧ 0 ≤ y ∧ y < w.m then
    agreeAfter old new (w.i + x) (w.j + y.toNat) (w.n - x) (w.m - y.toNat)
  else 0

/-- How far a way from the end goes on without an edit before `x` old and `y` new items. -/
def slideBack (old new : Array α) (w : Window) (x : Nat) (y : Int) : Nat :=
  if x < w.n ∧ 0 ≤ y ∧ y < w.m then
    agreeBefore old new w.i w.j (w.n - x) (w.m - y.toNat)
  else 0

/-- Advances the ways from the front on the given diagonals. Ends with the point where a way from
the end is met, if one is. -/
def advance (old new : Array α) (w : Window) (d : Nat) (far : Frontier) :
    Frontier → List Int → Frontier × Option (Nat × Nat)
  | near, [] => (near, none)
  | near, k :: ks =>
    let x := near.enter d k
    let y := (x : Int) - k
    let stop := x + slideForth old new w x y
    if w.delta % 2 ≠ 0 ∧ (k - w.delta).natAbs + 1 ≤ d ∧ w.n ≤ stop + far.get (w.delta - k) then
      (near.set k stop, some (x, y.toNat))
    else advance old new w d far (near.set k stop) ks

/-- Advances the ways from the end on the given diagonals. Ends with the point where a way from the
front is met, if one is. -/
def retreat (old new : Array α) (w : Window) (d : Nat) (near : Frontier) :
    Frontier → List Int → Frontier × Option (Nat × Nat)
  | far, [] => (far, none)
  | far, k :: ks =>
    let x := far.enter d k
    let y := (x : Int) - k
    let slide := slideBack old new w x y
    let stop := x + slide
    if w.delta % 2 = 0 ∧ (k - w.delta).natAbs ≤ d ∧ w.n ≤ stop + near.get (w.delta - k) then
      (far.set k stop, some (w.n - stop, ((w.m : Int) - (y + slide)).toNat))
    else retreat old new w d near (far.set k stop) ks

/-- Looks for the meeting point with `d` edits from each side, then with more, for `rounds`
rounds. -/
def meet (old new : Array α) (w : Window) : (rounds d : Nat) → (near far : Frontier) →
    Option (Nat × Nat)
  | 0, _, _, _ => none
  | rounds + 1, d, near, far =>
    match advance old new w d far near (diagonals d) with
    | (_, some p) => some p
    | (near, none) =>
      match retreat old new w d near far (diagonals d) with
      | (_, some p) => some p
      | (far, none) => meet old new w rounds (d + 1) near far

/-- How many rounds can be needed. -/
def rounds (w : Window) : Nat := (w.n + w.m + 1) / 2 + 1

/-- Both parts of a split at `x` old and `y` new items are smaller than the whole. -/
def IsSplit (w : Window) (p : Nat × Nat) : Prop :=
  p.1 ≤ w.n ∧ p.2 ≤ w.m ∧ 0 < p.1 + p.2 ∧ p.1 + p.2 < w.n + w.m

instance (w : Window) (p : Nat × Nat) : Decidable (w.IsSplit p) :=
  inferInstanceAs (Decidable (_ ∧ _ ∧ _ ∧ _))

/-- The point at which to split. -/
def split? (old new : Array α) (w : Window) : Option (Nat × Nat) :=
  (meet old new w w.rounds 0 (.start w.rounds) (.start w.rounds)).filter fun p => w.IsSplit p

theorem isSplit_of_split? {old new : Array α} {w : Window} {p : Nat × Nat}
    (h : w.split? old new = some p) : w.IsSplit p := by
  simpa using (Option.filter_eq_some_iff.1 h).2

/-- The part before a split. -/
def before (w : Window) (p : Nat × Nat) : Window := ⟨w.i, p.1, w.j, p.2⟩

/-- The part behind a split. -/
def behind (w : Window) (p : Nat × Nat) : Window :=
  ⟨w.i + p.1, w.n - p.1, w.j + p.2, w.m - p.2⟩

/-- The window without `s` items at the front of both ranges. -/
def dropFront (w : Window) (s : Nat) : Window := ⟨w.i + s, w.n - s, w.j + s, w.m - s⟩

/-- The window without `s` items at the end of both ranges. -/
def dropEnd (w : Window) (s : Nat) : Window := ⟨w.i, w.n - s, w.j, w.m - s⟩

/-- All old items deleted. -/
def deletion (w : Window) : Edit := ⟨.delete, w.i, w.n, w.j, 0⟩

/-- All new items inserted. -/
def insertion (w : Window) : Edit := ⟨.insert, w.i, 0, w.j, w.m⟩

/-- Keeps `len` items from `i` and `j` on, if there are any. -/
def kept (i j len : Nat) : List Edit := if len = 0 then [] else [.keeping i j len]

/-- The script for a pair of ranges. -/
def script (old new : Array α) (w : Window) : List Edit :=
  let front := agreeAfter old new w.i w.j w.n w.m
  let rest := w.dropFront front
  let back := agreeBefore old new rest.i rest.j rest.n rest.m
  let core := rest.dropEnd back
  let middle :=
    if core.n = 0 ∧ core.m = 0 then []
    else if core.m = 0 then [core.deletion]
    else if core.n = 0 then [core.insertion]
    else
      match _h : core.split? old new with
      | some p => script old new (core.before p) ++ script old new (core.behind p)
      | none => [core.deletion, core.insertion]
  kept w.i w.j front ++ middle ++ kept (core.i + core.n) (core.j + core.m) back
termination_by w.n + w.m
decreasing_by
  all_goals
    have hs := isSplit_of_split? _h
    simp only [IsSplit, dropEnd, dropFront, before, behind, core, rest] at hs ⊢
    omega

end Window

/-- The script that turns `old` into `new`, before it is tidied. -/
def search (old new : Array α) : List Edit := Window.script old new ⟨0, old.size, 0, new.size⟩

end CommandForge.Patch
