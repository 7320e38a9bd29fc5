import CommandForge.Patch.Edit
/-!
# Tidying a script

A block of deletions or insertions between equal items can often slide: what it passes on one side
equals what it leaves on the other. Each block is slid to the front as far as it goes, over kept
items that end like it and past blocks of the other kind, merging with blocks of its own kind; then
to the end in the same way. Deletions are done first, then insertions. Only insertions slide over
kept items, since the new range of a deletion is empty.

The edits before and behind the block are at hand as two lists, the nearest first.
-/

namespace CommandForge.Patch

/-- A script looked at from one of its edits. -/
structure Focus where
  /-- The edits before it, the nearest first. -/
  before : List Edit
  this : Edit
  after : List Edit
  deriving DecidableEq, Repr

namespace Focus

/-- The room that edits take. Each step of a block past its neighbours uses some of it up. -/
def room : List Edit → Nat
  | [] => 0
  | e :: edits => e.oldLen + 1 + room edits

/-- `s` items kept behind a block that slides to the front over the end of `prev`. -/
def keepBehind (prev this : Edit) (s : Nat) (after : List Edit) : List Edit :=
  match after with
  | next :: rest =>
    if next.kind = .keep then (next.back s).lengthen s :: rest
    else .keeping (prev.oldEnd - s) (this.newEnd - s) s :: next :: rest
  | [] => [.keeping (prev.oldEnd - s) (this.newEnd - s) s]

/-- `s` items kept before a block that slides to the end over the start of `next`. -/
def keepBefore (this next : Edit) (s : Nat) (before : List Edit) : List Edit :=
  match before with
  | prev :: rest =>
    if prev.kind = .keep then prev.lengthen s :: rest
    else .keeping next.oldStart this.newStart s :: prev :: rest
  | [] => [.keeping next.oldStart this.newStart s]

/-- The edit unless it is about no items. -/
def unlessEmpty (e : Edit) (edits : List Edit) : List Edit :=
  if e.size = 0 then edits else e :: edits

/-- The lengths that matter when two edits of one kind are merged. -/
def touched (e : Edit) : Nat :=
  match e.kind with
  | .keep | .delete => e.oldLen
  | .insert => e.newLen

theorem room_unlessEmpty_shorten {prev : Edit} {s : Nat} (h : 0 < s) (hs : s ≤ prev.oldLen)
    (edits : List Edit) : room (unlessEmpty (prev.shorten s) edits) < room (prev :: edits) := by
  unfold unlessEmpty
  split
  · simp only [room]
    omega
  · simp only [room, Edit.shorten]
    omega

theorem room_unlessEmpty_shorten_forth {next : Edit} {s : Nat} (h : 0 < s) (hs : s ≤ next.oldLen)
    (edits : List Edit) :
    room (unlessEmpty ((next.shorten s).forth s) edits) < room (next :: edits) := by
  unfold unlessEmpty
  split
  · simp only [room]
    omega
  · simp only [room, Edit.shorten, Edit.forth]
    omega

theorem room_lt_cons (e : Edit) (edits : List Edit) : room edits < room (e :: edits) := by
  simp only [room]
  omega

variable {α : Type} [DecidableEq α]

/-- Slides the block `this` to the front. -/
def toFront (old new : Array α) (before : List Edit) (this : Edit) (after : List Edit) : Focus :=
  match before with
  | [] => ⟨[], this, after⟩
  | prev :: rest =>
    if prev.kind = .keep then
      if _h : 0 < agreeBefore old new prev.oldStart this.newStart prev.oldLen this.newLen then
        let s := agreeBefore old new prev.oldStart this.newStart prev.oldLen this.newLen
        toFront old new (unlessEmpty (prev.shorten s) rest) (this.back s)
          (keepBehind prev this s after)
      else if prev.size = 0 then toFront old new rest this after
      else ⟨prev :: rest, this, after⟩
    else if prev.kind = this.kind then toFront old new rest (prev.lengthen (touched this)) after
    else toFront old new rest this (prev :: after)
termination_by room before
decreasing_by
  · exact room_unlessEmpty_shorten _h (agreeBefore_le ..).1 _
  all_goals exact room_lt_cons ..

/-- Slides the block `this` to the end. -/
def toEnd (old new : Array α) (before : List Edit) (this : Edit) (after : List Edit) : Focus :=
  match after with
  | [] => ⟨before, this, []⟩
  | next :: rest =>
    if next.kind = .keep then
      if _h : 0 < agreeAfter old new next.oldStart this.newStart next.oldLen this.newLen then
        let s := agreeAfter old new next.oldStart this.newStart next.oldLen this.newLen
        toEnd old new (keepBefore this next s before) (this.forth s)
          (unlessEmpty ((next.shorten s).forth s) rest)
      else if next.size = 0 then toEnd old new before this rest
      else ⟨before, this, next :: rest⟩
    else if next.kind = this.kind then toEnd old new before (this.lengthen (touched next)) rest
    else toEnd old new (next :: before) this rest
termination_by room after
decreasing_by
  · exact room_unlessEmpty_shorten_forth _h (agreeAfter_le ..).1 _
  all_goals exact room_lt_cons ..

/-- Slides the block at hand as far to the front and then to the end as it goes. -/
def settle (old new : Array α) (f : Focus) : Focus :=
  let f := toFront old new f.before f.this f.after
  toEnd old new f.before f.this f.after

/-- How many edits of a kind there are. -/
def countKind (kind : EditKind) (edits : List Edit) : Nat := edits.countP (·.kind = kind)

@[simp] theorem kind_lengthen (e : Edit) (s : Nat) : (e.lengthen s).kind = e.kind := by
  simp only [Edit.lengthen]
  split <;> rfl

@[simp] theorem kind_back (e : Edit) (s : Nat) : (e.back s).kind = e.kind := rfl

@[simp] theorem kind_keeping (i j s : Nat) : (Edit.keeping i j s).kind = .keep := rfl

theorem countKind_keepBehind {kind : EditKind} (h : kind ≠ .keep) (prev this : Edit) (s : Nat)
    (after : List Edit) : countKind kind (keepBehind prev this s after) = countKind kind after := by
  simp only [countKind, keepBehind]
  split
  · split
    · rename_i hk
      simp only [List.countP_cons, kind_lengthen, kind_back, hk]
    · simp [Ne.symm h]
  · simp [Ne.symm h]

/-- Sliding to the front leaves the edits of the block's kind behind it alone. -/
theorem countKind_toFront (old new : Array α) {before after : List Edit} {this : Edit}
    (h : this.kind ≠ .keep) :
    (toFront old new before this after).this.kind = this.kind ∧
      countKind this.kind (toFront old new before this after).after
        = countKind this.kind after := by
  fun_induction toFront old new before this after with
  | case1 => simp
  | case2 this after prev rest hk hs s ih =>
    have := ih h
    simp only [Edit.back] at this
    exact ⟨this.1, this.2.trans (countKind_keepBehind h ..)⟩
  | case3 this after prev rest hk hs hz ih => exact ih h
  | case4 => simp
  | case5 this after prev rest hk heq ih =>
    have := ih (by simpa [heq] using h)
    simpa [heq] using this
  | case6 this after prev rest hk hne ih =>
    have := ih h
    refine ⟨this.1, this.2.trans ?_⟩
    simp [countKind, hne]

theorem countKind_unlessEmpty_le (kind : EditKind) (e next : Edit) (rest : List Edit)
    (he : e.kind = next.kind) :
    countKind kind (unlessEmpty e rest) ≤ countKind kind (next :: rest) := by
  simp only [countKind, unlessEmpty]
  split <;> simp [List.countP_cons, he]

/-- Sliding to the end adds no edit of any kind behind the block. -/
theorem countKind_toEnd_le (kind : EditKind) (old new : Array α) (before after : List Edit)
    (this : Edit) :
    countKind kind (toEnd old new before this after).after ≤ countKind kind after := by
  fun_induction toEnd old new before this after with
  | case1 => simp
  | case2 before this next rest hk hs s ih =>
    exact Nat.le_trans ih (countKind_unlessEmpty_le kind _ next rest rfl)
  | case3 before this next rest hk hs hz ih =>
    exact Nat.le_trans ih (by simp [countKind, List.countP_cons])
  | case4 => simp
  | case5 before this next rest hk heq ih =>
    exact Nat.le_trans ih (by simp [countKind, List.countP_cons])
  | case6 before this next rest hk hne ih =>
    exact Nat.le_trans ih (by simp [countKind, List.countP_cons])

theorem countKind_settle_le (old new : Array α) (f : Focus) (h : f.this.kind ≠ .keep) :
    countKind f.this.kind (f.settle old new).after ≤ countKind f.this.kind f.after := by
  simp only [settle]
  refine Nat.le_trans (countKind_toEnd_le ..) ?_
  exact Nat.le_of_eq (countKind_toFront old new h).2

end Focus

variable {α : Type} [DecidableEq α]

/-- Settles the blocks of one kind, from the front of the script on. `done` holds the edits that are
passed, the last one first. -/
def tidyKind (kind : { k : EditKind // k ≠ .keep }) (old new : Array α) (done todo : List Edit) :
    List Edit :=
  match todo with
  | [] => done.reverse
  | e :: rest =>
    if _h : e.kind = kind.1 then
      let f := Focus.settle old new ⟨done, e, rest⟩
      tidyKind kind old new (f.this :: f.before) f.after
    else tidyKind kind old new (e :: done) rest
termination_by (Focus.countKind kind.1 todo, todo.length)
decreasing_by
  · have hle := Focus.countKind_settle_le old new ⟨done, e, rest⟩ (_h ▸ kind.2)
    rw [_h] at hle
    refine Prod.Lex.left _ _ (Nat.lt_of_le_of_lt hle ?_)
    simp [Focus.countKind, _h]
  · have hc : Focus.countKind kind.1 (e :: rest) = Focus.countKind kind.1 rest := by
      simp [Focus.countKind, _h]
    rw [hc]
    exact Prod.Lex.right _ (by simp)

/-- The script with its deletions settled, then its insertions. -/
def tidy (old new : Array α) (script : List Edit) : List Edit :=
  tidyKind ⟨.insert, by decide⟩ old new []
    (tidyKind ⟨.delete, by decide⟩ old new [] script)

end CommandForge.Patch
