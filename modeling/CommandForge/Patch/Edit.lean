/-!
# Edit scripts

An edit script turns one list of items, the old one, into another, the new one. An edit carries the
ranges that it stands for in both: it keeps a range, deletes old items or inserts new ones. The
range of an edit on the side that it does not touch is empty, but has a start all the same.
-/

namespace CommandForge.Patch

/-- What an edit does with items. -/
inductive EditKind where
  | keep
  | delete
  | insert
  deriving DecidableEq, Repr

/-- An edit with its ranges in the old and in the new list. -/
structure Edit where
  kind : EditKind
  oldStart : Nat
  oldLen : Nat
  newStart : Nat
  newLen : Nat
  deriving DecidableEq, Repr

namespace Edit

/-- Keeps `len` items. -/
def keeping (oldStart newStart len : Nat) : Edit := ⟨.keep, oldStart, len, newStart, len⟩

/-- The end of the old range. -/
def oldEnd (e : Edit) : Nat := e.oldStart + e.oldLen

/-- The end of the new range. -/
def newEnd (e : Edit) : Nat := e.newStart + e.newLen

/-- How many items the edit is about. -/
def size (e : Edit) : Nat := max e.oldLen e.newLen

/-- The lengths of a kept range after adding `s` to both; of other edits, only the touched side
counts. -/
def lengthen (e : Edit) (s : Nat) : Edit :=
  match e.kind with
  | .keep => { e with oldLen := e.oldLen + s, newLen := e.newLen + s }
  | .delete => { e with oldLen := e.oldLen + s }
  | .insert => { e with newLen := e.newLen + s }

/-- The edit without `s` items at its end. -/
def shorten (e : Edit) (s : Nat) : Edit :=
  { e with oldLen := e.oldLen - s, newLen := e.newLen - s }

/-- Both ranges moved `s` places to the front. -/
def back (e : Edit) (s : Nat) : Edit :=
  { e with oldStart := e.oldStart - s, newStart := e.newStart - s }

/-- Both ranges moved `s` places to the end. -/
def forth (e : Edit) (s : Nat) : Edit :=
  { e with oldStart := e.oldStart + s, newStart := e.newStart + s }

end Edit

variable {α : Type} [DecidableEq α]

/-- How many items agree from `i` and `j` on, among `p` old and `q` new ones. -/
def agreeAfter (old new : Array α) (i j : Nat) : Nat → Nat → Nat
  | p + 1, q + 1 => if old[i]? = new[j]? then agreeAfter old new (i + 1) (j + 1) p q + 1 else 0
  | _, _ => 0

/-- How many items agree at the ends of the `p` old items from `i` on and the `q` new ones from `j`
on. -/
def agreeBefore (old new : Array α) (i j : Nat) : Nat → Nat → Nat
  | p + 1, q + 1 => if old[i + p]? = new[j + q]? then agreeBefore old new i j p q + 1 else 0
  | _, _ => 0

theorem agreeAfter_le (old new : Array α) (i j p q : Nat) :
    agreeAfter old new i j p q ≤ p ∧ agreeAfter old new i j p q ≤ q := by
  fun_induction agreeAfter old new i j p q <;> omega

theorem agreeBefore_le (old new : Array α) (i j p q : Nat) :
    agreeBefore old new i j p q ≤ p ∧ agreeBefore old new i j p q ≤ q := by
  fun_induction agreeBefore old new i j p q <;> omega

end CommandForge.Patch
