import Mathlib.Data.List.TakeDrop
import Mathlib.Data.String.Basic
import CommandForge.Proofs.Patch.Shown
import CommandForge.Proofs.Patch.Tidied
/-!
# Applying patches

Hunks with the lines between them make up the old text, read one way, and the new text, read the
other way (`Rewrites`). Going by the headers finds the way exactly if these give the places of the
hunks (`applyFrom_eq_some_iff`). The headers of a patch do so, the start of the first hunk and the
end of the last one left aside (`rewrites_shownHunks`): there one side may have lost its place, and
what remains to ask is that both sides say the same (`patches_iff_aligned`).
-/

namespace CommandForge.Patch

/-- Behind `i` lines of the one text and `j` of the other, hunks with the same lines before, between
and behind them make up the rest of both. `holds` is what is known of a hunk and its place. -/
inductive Rewrites (holds : Shown → Nat → Nat → Prop) :
    Nat → Nat → List Shown → List String → List String → Prop
  | rest {i j : Nat} (same : List String) : Rewrites holds i j [] same same
  | hunk {i j : Nat} {h : Shown} {hs : List Shown} {old new : List String} (same : List String)
      (here : holds h (i + same.length) (j + same.length))
      (behind : Rewrites holds (i + same.length + h.oldLines.length)
        (j + same.length + h.newLines.length) hs old new) :
      Rewrites holds i j (h :: hs) (same ++ h.oldLines ++ old) (same ++ h.newLines ++ new)

/-- The hunks turn the one text into the other, and their headers say where they stand. -/
def Patches (old new : List String) (hs : List Shown) : Prop := Rewrites Shown.At 0 0 hs old new

variable {holds holds' : Shown → Nat → Nat → Prop} {h : Shown} {hs : List Shown}
  {old new : List String} {i j : Nat}

theorem Rewrites.mono (hmono : ∀ h i j, holds h i j → holds' h i j)
    (hr : Rewrites holds i j hs old new) : Rewrites holds' i j hs old new := by
  induction hr with
  | rest same => exact .rest same
  | hunk same here behind ih => exact .hunk same (hmono _ _ _ here) ih

/-! ## Going by the headers -/

/-- Applies hunks to the lines behind `i` lines of the one text and `j` of the other, each where its
header says; none if that is not a place for it, or other lines stand there. -/
def applyFrom (i j : Nat) : List Shown → List String → Option (List String)
  | [], lines => some lines
  | h :: hs, lines =>
    let same := lines.take (h.oldStart - i)
    let here := lines.drop (h.oldStart - i)
    if h.At (i + same.length) (j + same.length) ∧ h.oldLines <+: here then
      (applyFrom (h.oldStart + h.oldLen) (h.newStart + h.newLen) hs (here.drop h.oldLen)).map
        (same ++ h.newLines ++ ·)
    else none

/-- Applies a patch to the lines of a text. -/
def apply (hs : List Shown) (lines : List String) : Option (List String) := applyFrom 0 0 hs lines

/-- Applying hunks gives a text exactly if they turn the lines into it and stand where their headers
say. -/
theorem applyFrom_eq_some_iff :
    applyFrom i j hs old = some new ↔ Rewrites Shown.At i j hs old new := by
  constructor
  · intro happly
    induction hs generalizing i j old new with
    | nil =>
      obtain rfl := Option.some.inj happly
      exact .rest old
    | cons h hs ih =>
      rw [applyFrom] at happly
      split at happly
      · rename_i hcond
        obtain ⟨hat, here, hlines⟩ := hcond
        obtain ⟨out, hout, rfl⟩ := Option.map_eq_some_iff.1 happly
        have hbehind := ih hout
        obtain ⟨hold, hoc, hnew, hnc⟩ := id hat
        rw [← hlines, hoc, List.drop_left, hold, hnew, hnc] at hbehind
        have hsplit : old = old.take (h.oldStart - i) ++ h.oldLines ++ here := by
          rw [List.append_assoc, hlines, List.take_append_drop]
        conv =>
          arg 5
          rw [hsplit]
        exact .hunk _ hat hbehind
      · cases happly
  · intro hr
    induction hr with
    | rest same => rfl
    | @hunk i j h hs old new same here behind ih =>
      obtain ⟨hold, hoc, hnew, hnc⟩ := id here
      have hgap : h.oldStart - i = same.length := by omega
      have htake : (same ++ h.oldLines ++ old).take (h.oldStart - i) = same := by
        rw [hgap, List.append_assoc, List.take_left]
      have hdrop : (same ++ h.oldLines ++ old).drop (h.oldStart - i) = h.oldLines ++ old := by
        rw [hgap, List.append_assoc, List.drop_left]
      rw [applyFrom, htake, hdrop, if_pos ⟨here, List.prefix_append ..⟩, hoc, List.drop_left, hold,
        hnew, hnc, ih, Option.map_some]

theorem apply_eq_some_iff : apply hs old = some new ↔ Patches old new hs := applyFrom_eq_some_iff

theorem Rewrites.flip (hr : Rewrites Shown.At i j hs old new) :
    Rewrites Shown.At j i (hs.map Shown.flip) new old := by
  induction hr with
  | rest same => exact .rest same
  | @hunk i j h hs old new same here behind ih =>
    rw [← Shown.oldLines_flip h, ← Shown.newLines_flip h] at ih ⊢
    exact .hunk same here.flip ih

theorem patches_flip_iff : Patches new old (hs.map Shown.flip) ↔ Patches old new hs := by
  constructor
  · intro hr
    have hback := Rewrites.flip hr
    have hid : hs.map (Shown.flip ∘ Shown.flip) = hs := List.map_id'' Shown.flip_flip hs
    rwa [List.map_map, hid] at hback
  · exact Rewrites.flip

/-! ## The headers of a patch -/

/-- The rows stand behind `i` of `n` lines of the one text and `j` of `m` lines of the other, and
the header gives their places. Where the hunk starts or ends with both texts, it may give the right
place in one of them only. -/
structure Shown.Near (n m : Nat) (h : Shown) (i j : Nat) : Prop where
  pos : 0 < h.oldLines.length + h.newLines.length
  start : h.oldStart = i ∧ h.newStart = j ∨ (i = 0 ∧ j = 0) ∧ (h.oldStart = i ∨ h.newStart = j)
  stop : h.oldStart = i → h.newStart = j →
    h.oldLen = h.oldLines.length ∧ h.newLen = h.newLines.length ∨
      (i + h.oldLines.length = n ∧ j + h.newLines.length = m) ∧
        (h.oldLen = h.oldLines.length ∨ h.newLen = h.newLines.length)

/-- The first header starts with the same line number in both texts, and the last one ends equally
far from the ends of both. -/
def Aligned (old new : List String) (hs : List Shown) : Prop :=
  (∀ h ∈ hs.head?, h.oldStart = h.newStart) ∧
    ∀ h ∈ hs.getLast?, h.oldStart + h.oldLen + new.length = h.newStart + h.newLen + old.length

theorem Shown.Near.at {n m : Nat} (hnear : h.Near n m i j) (hi : 0 < i)
    (hn : i + h.oldLines.length < n) : h.At i j := by
  obtain ⟨hold, hnew⟩ : h.oldStart = i ∧ h.newStart = j := by
    rcases hnear.start with hstart | ⟨⟨hzero, -⟩, -⟩
    · exact hstart
    · omega
  rcases hnear.stop hold hnew with ⟨hoc, hnc⟩ | ⟨⟨hend, -⟩, -⟩
  · exact ⟨hold, hoc, hnew, hnc⟩
  · omega

theorem Rewrites.length_pos {n m : Nat} (hr : Rewrites (Shown.Near n m) i j (h :: hs) old new) :
    0 < old.length + new.length := by
  cases hr with
  | hunk same here behind =>
    have hpos := here.pos
    simp only [List.length_append]
    omega

/-- If both sides of the first header and of the last one say the same, then all headers are right:
the other headers always are. -/
theorem Rewrites.at_of_aligned {n m : Nat} (hr : Rewrites (Shown.Near n m) i j hs old new)
    (hn : i + old.length = n) (hm : j + new.length = m)
    (hfirst : i = 0 → j = 0 → ∀ h ∈ hs.head?, h.oldStart = h.newStart)
    (hlast : ∀ h ∈ hs.getLast?, h.oldStart + h.oldLen + m = h.newStart + h.newLen + n) :
    Rewrites Shown.At i j hs old new := by
  induction hr with
  | rest same => exact .rest same
  | @hunk i j h hs old new same here behind ih =>
    simp only [List.length_append] at hn hm
    have hpos := here.pos
    obtain ⟨hold, hnew⟩ : h.oldStart = i + same.length ∧ h.newStart = j + same.length := by
      rcases here.start with hstart | ⟨hzero, hone⟩
      · exact hstart
      · have heq := hfirst (by omega) (by omega) h rfl
        omega
    refine .hunk same ?_ (ih (by omega) (by omega) (by omega) ?_)
    · rcases here.stop hold hnew with ⟨hoc, hnc⟩ | ⟨hend, hone⟩
      · exact ⟨hold, hoc, hnew, hnc⟩
      · -- The hunk ends with both texts, so it is the last one.
        cases hs with
        | nil =>
          have heq := hlast h rfl
          exact ⟨hold, by omega, hnew, by omega⟩
        | cons next hs =>
          have hmore := behind.length_pos
          omega
    · intro l hl
      apply hlast l
      cases hs with
      | nil => cases hl
      | cons next hs =>
        rw [List.getLast?_cons_cons]
        exact hl

theorem Rewrites.aligned (hr : Rewrites Shown.At i j hs old new) :
    (∀ h ∈ hs.head?, h.oldStart + j = h.newStart + i) ∧
      ∀ h ∈ hs.getLast?, h.oldStart + h.oldLen + (j + new.length) =
        h.newStart + h.newLen + (i + old.length) := by
  induction hr with
  | rest same => simp
  | @hunk i j h hs old new same here behind ih =>
    obtain ⟨hold, hoc, hnew, hnc⟩ := here
    constructor
    · intro l hl
      obtain rfl := Option.some.inj hl
      omega
    · intro l hl
      simp only [List.length_append]
      cases hs with
      | nil =>
        obtain rfl : h = l := Option.some.inj hl
        cases behind
        omega
      | cons next hs =>
        rw [List.getLast?_cons_cons] at hl
        have hend := ih.2 l hl
        omega

theorem patches_iff_aligned (hr : Rewrites (Shown.Near old.length new.length) 0 0 hs old new) :
    Patches old new hs ↔ Aligned old new hs := by
  constructor
  · intro hpatches
    have haligned := Rewrites.aligned hpatches
    simp only [Nat.add_zero, Nat.zero_add] at haligned
    exact haligned
  · rintro ⟨hfirst, hlast⟩
    exact hr.at_of_aligned (Nat.zero_add _) (Nat.zero_add _) (fun _ _ => hfirst) hlast

theorem apply_eq_some_iff_aligned
    (hr : Rewrites (Shown.Near old.length new.length) 0 0 hs old new) :
    apply hs old = some new ↔ Aligned old new hs := by
  rw [apply_eq_some_iff, patches_iff_aligned hr]

theorem apply_flip_eq_some_iff_aligned
    (hr : Rewrites (Shown.Near old.length new.length) 0 0 hs old new) :
    apply (hs.map Shown.flip) new = some old ↔ Aligned old new hs := by
  rw [apply_eq_some_iff, patches_flip_iff, patches_iff_aligned hr]

/-! ## The patch of two texts -/

section

variable {b : Block} {hunk : Hunk} {hunks : List Hunk} {old new : Array String} {i j x y : Nat}

/-- A block starts where it says on a side of which it has lines. -/
theorem Block.Covers.start_or (h : b.Covers old new i j x y) :
    b.oldStart = i ∨ b.newStart = j := by
  cases h with
  | keep keeps pos len oldStart => exact .inl oldStart
  | change changes pos oldStart newStart => omega

theorem Block.Covers.stop_or (h : b.Covers old new i j x y) : b.oldEnd = x ∨ b.newEnd = y := by
  rw [Block.oldEnd, Block.newEnd]
  cases h with
  | keep keeps pos len oldStart newStart agree oldStop newStop => omega
  | change changes pos oldStart newStart oldStop newStop => omega

/-- The header of a hunk of blocks goes wrong on one side at most, and only at an end of both
texts. -/
theorem near_shown (hne : hunk ≠ []) (h : Chain (Block.Covers old new) hunk i j x y)
    (hx : x ≤ old.size) (hy : y ≤ new.size) (hfirst : FirstKeeps hunk ∨ i = 0 ∧ j = 0)
    (hlast : LastKeeps hunk ∨ x = old.size ∧ y = new.size) :
    (shown old new hunk).Near old.size new.size i j ∧
      i + (shown old new hunk).oldLines.length = x ∧
      j + (shown old new hunk).newLines.length = y := by
  have hle := chain_le h
  obtain ⟨hold, hnew⟩ := chain_stands h hx hy
  have hoc : (shown old new hunk).oldLines.length = x - i := by
    rw [Shown.oldLines, shown, hold, Array.length_toList, Array.size_extract, Nat.min_eq_left hx]
  have hnc : (shown old new hunk).newLines.length = y - j := by
    rw [Shown.newLines, shown, hnew, Array.length_toList, Array.size_extract, Nat.min_eq_left hy]
  obtain ⟨hpos, hstart⟩ : i + j < x + y ∧
      ((shown old new hunk).oldStart = i ∧ (shown old new hunk).newStart = j ∨
        (i = 0 ∧ j = 0) ∧
          ((shown old new hunk).oldStart = i ∨ (shown old new hunk).newStart = j)) := by
    obtain ⟨b, bs, rfl⟩ := List.exists_cons_of_ne_nil hne
    obtain ⟨i', j', hb, hbs⟩ := chain_cons.1 h
    have hlt := hb.lt
    have hle' := chain_le hbs
    refine ⟨by omega, hfirst.imp ?_ fun hzero => ⟨hzero, hb.start_or⟩⟩
    intro hkeeps
    obtain ⟨pos, len, oldStart, newStart, -⟩ := hb.of_keeps (hkeeps b rfl)
    exact ⟨oldStart, newStart⟩
  refine ⟨⟨by omega, hstart, ?_⟩, by omega, by omega⟩
  intro holdStart hnewStart
  obtain ⟨c, hc⟩ := Option.isSome_iff_exists.1 (List.getLast?_isSome.2 hne)
  have hlens : (shown old new hunk).oldLen = c.oldEnd - (shown old new hunk).oldStart ∧
      (shown old new hunk).newLen = c.newEnd - (shown old new hunk).newStart := by
    simp [shown, hc]
  obtain ⟨front, rfl⟩ := List.getLast?_eq_some_iff.1 hc
  obtain ⟨i', j', -, hlastCovers⟩ := chain_append.1 h
  obtain ⟨x', y', hcovers, hnil⟩ := chain_cons.1 hlastCovers
  obtain ⟨rfl, rfl⟩ := chain_nil.1 hnil
  rcases hlast with hkeeps | ⟨hx, hy⟩
  · left
    obtain ⟨pos, len, oldStart, newStart, -, oldStop, newStop⟩ := hcovers.of_keeps (hkeeps c hc)
    simp only [Block.oldEnd, Block.newEnd] at hlens
    omega
  · right
    have hstop := hcovers.stop_or
    omega

theorem Spread.le (h : Spread old new hunks i j) : i ≤ old.size ∧ j ≤ new.size := by
  induction h with
  | tail agree oldStop newStop => omega
  | hunk ne gap covers first last rest ih =>
    have hle := chain_le covers
    omega

theorem drop_eq_extract_append (lines : Array String) (hx : i ≤ x) (hsize : x ≤ lines.size) :
    lines.toList.drop i = (lines.extract i x).toList ++ lines.toList.drop x := by
  have hend (k : Nat) : lines.toList.drop k = (lines.extract k lines.size).toList := by
    simp [List.extract_eq_take_drop]
  rw [hend, hend, toList_extract_append lines hx hsize]

theorem rewrites_of_spread (h : Spread old new hunks i j) :
    Rewrites (Shown.Near old.size new.size) i j (hunks.map (shown old new)) (old.toList.drop i)
      (new.toList.drop j) := by
  induction h with
  | @tail i j n agree oldStop newStop =>
    have heq := agree.extract_eq (Nat.le_of_eq oldStop) (Nat.le_of_eq newStop)
    rw [drop_eq_extract_append old (Nat.le_add_right i n) (Nat.le_of_eq oldStop),
      drop_eq_extract_append new (Nat.le_add_right j n) (Nat.le_of_eq newStop), heq, oldStop,
      newStop, List.drop_of_length_le (Nat.le_of_eq Array.length_toList),
      List.drop_of_length_le (Nat.le_of_eq Array.length_toList)]
    exact .rest _
  | @hunk i j n x y hunk hunks ne gap covers first last rest ih =>
    have hle := chain_le covers
    obtain ⟨hx, hy⟩ := rest.le
    have hi : i + n ≤ old.size := Nat.le_trans hle.1 hx
    have hj : j + n ≤ new.size := Nat.le_trans hle.2 hy
    obtain ⟨hnear, hoc, hnc⟩ := near_shown ne covers hx hy first last
    obtain ⟨hold, hnew⟩ := chain_stands covers hx hy
    have hlen : (old.extract i (i + n)).toList.length = n := by
      rw [Array.length_toList, Array.size_extract]
      omega
    rw [List.map_cons, drop_eq_extract_append old (Nat.le_add_right i n) hi,
      drop_eq_extract_append old hle.1 hx, drop_eq_extract_append new (Nat.le_add_right j n) hj,
      drop_eq_extract_append new hle.2 hy, ← gap.extract_eq hi hj, ← hold, ← hnew,
      ← List.append_assoc, ← List.append_assoc]
    apply Rewrites.hunk (h := shown old new hunk)
    · rwa [hlen]
    · rwa [hlen, hoc, hnc]

end

/-- The hunks that are shown for two texts. -/
def shownHunks (expected actual : String) : List Shown :=
  (hunks (script (linesOf expected) (linesOf actual))).map
    (shown (linesOf expected) (linesOf actual))

variable {expected actual : String}

theorem spread_script (expected actual : String) :
    Spread (linesOf expected) (linesOf actual)
      (hunks (script (linesOf expected) (linesOf actual))) 0 0 :=
  spread_hunks (covers_tidy (covers_search _ _))

theorem rewrites_shownHunks (expected actual : String) :
    Rewrites (Shown.Near (linesOf expected).toList.length (linesOf actual).toList.length) 0 0
      (shownHunks expected actual) (linesOf expected).toList (linesOf actual).toList := by
  rw [Array.length_toList, Array.length_toList]
  exact rewrites_of_spread (spread_script expected actual)

theorem join_linesOf (text : String) : String.join (linesOf text).toList = text := by
  have hid (pieces : List (List Char)) : pieces.map (String.toList ∘ String.ofList) = pieces := by
    apply List.map_id''
    intro cs
    exact String.toList_ofList
  rw [linesOf, List.toList_toArray, String.join_eq, List.map_map, hid, Text.flatten_terminated,
    String.ofList_toList]

theorem shownHunks_ne_nil (h : expected ≠ actual) : shownHunks expected actual ≠ [] := by
  intro hnil
  have hr := rewrites_shownHunks expected actual
  rw [hnil] at hr
  have heq : (linesOf expected).toList = (linesOf actual).toList := by
    generalize (linesOf expected).toList = old, (linesOf actual).toList = new at hr
    cases hr
    rfl
  rw [← join_linesOf expected, heq, join_linesOf] at h
  exact h rfl

theorem ne_nil_of_mem_hunks {hunk : Hunk} {old new : Array String} {hunks : List Hunk} {i j : Nat}
    (h : Spread old new hunks i j) (hm : hunk ∈ hunks) : hunk ≠ [] := by
  induction h with
  | tail => cases hm
  | hunk ne gap covers first last rest ih =>
    rcases List.mem_cons.1 hm with rfl | hm
    · exact ne
    · exact ih hm

theorem unified_eq (h : expected ≠ actual) :
    unified expected actual = patchText (shownHunks expected actual) := by
  have htexts : (hunks (script (linesOf expected) (linesOf actual))).map
      (hunkText (linesOf expected) (linesOf actual)) =
        (shownHunks expected actual).map Shown.text := by
    rw [shownHunks, List.map_map]
    apply List.map_congr_left
    intro hunk hm
    rw [Function.comp_apply]
    exact hunkText_eq (ne_nil_of_mem_hunks (spread_script expected actual) hm)
  have hne : hunks (script (linesOf expected) (linesOf actual)) ≠ [] := by
    intro hnil
    apply shownHunks_ne_nil h
    rw [shownHunks, hnil, List.map_nil]
  unfold unified patchText
  dsimp only
  rw [← htexts]
  clear htexts
  generalize hunks (script (linesOf expected) (linesOf actual)) = parts at hne ⊢
  cases parts with
  | nil => exact absurd rfl hne
  | cons part parts => rfl

end CommandForge.Patch
