import CommandForge.Proofs.Patch.Blocks
/-!
# Hunks as they are shown

What a reader of a patch sees of a hunk are the two ranges of its header and its rows, each a line
behind a mark (`Shown`). The text of a hunk of blocks is that of such a hunk (`hunkText_eq`), and
its rows are the lines of both texts between the places that its blocks cover (`Stands`).
-/

namespace CommandForge.Patch

/-! ## Rows -/

/-- A line behind its mark. -/
inductive Row where
  | kept (line : String)
  | deleted (line : String)
  | inserted (line : String)
  deriving DecidableEq, Repr

namespace Row

def text : Row → String
  | kept line => " " ++ line
  | deleted line => "-" ++ line
  | inserted line => "+" ++ line

/-- The line of the old text that is shown. -/
def old? : Row → Option String
  | kept line => some line
  | deleted line => some line
  | inserted _ => none

def new? : Row → Option String
  | kept line => some line
  | deleted _ => none
  | inserted line => some line

theorem old?_comp_deleted : old? ∘ deleted = some := rfl

theorem old?_comp_inserted : old? ∘ inserted = fun _ => none := rfl

theorem new?_comp_deleted : new? ∘ deleted = fun _ => none := rfl

theorem new?_comp_inserted : new? ∘ inserted = some := rfl

/-- The row of the way back. -/
def flip : Row → Row
  | kept line => kept line
  | deleted line => inserted line
  | inserted line => deleted line

theorem old?_flip (row : Row) : row.flip.old? = row.new? := by
  cases row with
  | kept line => rfl
  | deleted line => rfl
  | inserted line => rfl

theorem flip_flip (row : Row) : row.flip.flip = row := by
  cases row with
  | kept line => rfl
  | deleted line => rfl
  | inserted line => rfl

end Row

/-- A hunk with the ranges that its header gives, each from a first line on, and its rows. -/
structure Shown where
  oldStart : Nat
  oldLen : Nat
  newStart : Nat
  newLen : Nat
  rows : List Row
  deriving DecidableEq, Repr

namespace Shown

def text (h : Shown) : String :=
  "@@ -" ++ rangeText h.oldStart (h.oldStart + h.oldLen) ++ " +"
    ++ rangeText h.newStart (h.newStart + h.newLen) ++ " @@\n" ++ String.join (h.rows.map Row.text)

/-- The lines of the old text in the hunk. -/
def oldLines (h : Shown) : List String := h.rows.filterMap Row.old?

def newLines (h : Shown) : List String := h.rows.filterMap Row.new?

def flip (h : Shown) : Shown :=
  ⟨h.newStart, h.newLen, h.oldStart, h.oldLen, h.rows.map Row.flip⟩

/-- The ranges of the header are those of the rows, if these stand behind `i` lines of the old text
and `j` lines of the new one. -/
def At (h : Shown) (i j : Nat) : Prop :=
  h.oldStart = i ∧ h.oldLen = h.oldLines.length ∧ h.newStart = j ∧ h.newLen = h.newLines.length

instance (h : Shown) (i j : Nat) : Decidable (h.At i j) :=
  inferInstanceAs (Decidable (_ ∧ _ ∧ _ ∧ _))

theorem oldLines_flip (h : Shown) : h.flip.oldLines = h.newLines := by
  rw [oldLines, newLines, flip, List.filterMap_map]
  exact congrArg (h.rows.filterMap ·) (funext Row.old?_flip)

theorem flip_flip (h : Shown) : h.flip.flip = h := by
  have hrows : (h.rows.map Row.flip).map Row.flip = h.rows := by
    rw [List.map_map]
    exact List.map_id'' Row.flip_flip h.rows
  rw [flip, flip, hrows]

theorem newLines_flip (h : Shown) : h.flip.newLines = h.oldLines := by
  rw [← oldLines_flip, flip_flip]

theorem At.flip {h : Shown} {i j : Nat} (hat : h.At i j) : h.flip.At j i := by
  obtain ⟨hold, hoc, hnew, hnc⟩ := hat
  refine ⟨hnew, ?_, hold, ?_⟩
  · rw [oldLines_flip]
    exact hnc
  · rw [newLines_flip]
    exact hoc

end Shown

/-- A patch of hunks. -/
def patchText (hs : List Shown) : String :=
  "--- expected\n+++ actual\n" ++ String.join (hs.map Shown.text)

/-! ## The rows of a hunk -/

/-- The rows of a block: kept lines, or deleted and then inserted ones. -/
def Block.rows (old new : Array String) (b : Block) : List Row :=
  if b.keeps then (old.extract b.oldStart b.oldEnd).toList.map .kept
  else (old.extract b.oldStart b.oldEnd).toList.map .deleted ++
    (new.extract b.newStart b.newEnd).toList.map .inserted

/-- The hunk that is shown for blocks: its header starts with the first of them and ends with the
last one. -/
def shown (old new : Array String) (hunk : Hunk) : Shown :=
  let oldStart := (hunk.head?.map Block.oldStart).getD 0
  let newStart := (hunk.head?.map Block.newStart).getD 0
  ⟨oldStart, (hunk.getLast?.map Block.oldEnd).getD 0 - oldStart,
    newStart, (hunk.getLast?.map Block.newEnd).getD 0 - newStart,
    hunk.flatMap (Block.rows old new)⟩

variable {old new : Array String} {b : Block} {hunk : Hunk} {i j x y : Nat}

theorem text_rows (b : Block) :
    String.join ((b.rows old new).map Row.text) = blockText old new b := by
  rw [Block.rows, blockText]
  split
  · rw [List.map_map]
    rfl
  · rw [List.map_append, String.join_append, List.map_map, List.map_map]
    rfl

theorem rangeText_add_sub (start stop : Nat) :
    rangeText start (start + (stop - start)) = rangeText start stop := by
  rw [rangeText, rangeText, Nat.add_sub_cancel_left]

/-- What is written for a hunk of blocks is the text of the hunk that is shown for it. -/
theorem hunkText_eq (hne : hunk ≠ []) : hunkText old new hunk = (shown old new hunk).text := by
  have hrows : String.join ((shown old new hunk).rows.map Row.text) =
      String.join (hunk.map (blockText old new)) := by
    simp only [shown]
    clear hne
    induction hunk with
    | nil => rfl
    | cons b hunk ih =>
      rw [List.flatMap_cons, List.map_append, String.join_append, text_rows, ih, List.map_cons,
        String.join_cons]
  obtain ⟨first, hfirst⟩ := Option.isSome_iff_exists.1 (List.isSome_head?.2 hne)
  obtain ⟨last, hlast⟩ := Option.isSome_iff_exists.1 (List.getLast?_isSome.2 hne)
  rw [hunkText, Shown.text, hrows, headerText, hfirst, hlast]
  simp only [shown, hfirst, hlast, Option.map_some, Option.getD_some, rangeText_add_sub]

/-! ## Where the rows stand -/

theorem Agree.extract_eq {n : Nat} (h : Agree old new i j n) (hi : i + n ≤ old.size)
    (hj : j + n ≤ new.size) : old.extract i (i + n) = new.extract j (j + n) := by
  apply Array.ext
  · rw [Array.size_extract, Array.size_extract]
    omega
  · intro k hk hk'
    rw [Array.size_extract] at hk
    have hget := h k (by omega)
    rw [Array.getElem?_eq_getElem (by omega), Array.getElem?_eq_getElem (by omega)] at hget
    rw [Array.getElem_extract, Array.getElem_extract]
    exact Option.some.inj hget

/-- The rows are the lines from `i` to `x` of the old text and from `j` to `y` of the new one. -/
def Stands (old new : Array String) (rows : List Row) (i j x y : Nat) : Prop :=
  rows.filterMap Row.old? = (old.extract i x).toList ∧
    rows.filterMap Row.new? = (new.extract j y).toList

/-- Where a range is empty, it does not matter where it is said to start. -/
theorem extract_of_start (lines : Array String) {start n : Nat} (h : n = 0 ∨ start = i) :
    lines.extract start (start + n) = lines.extract i (i + n) := by
  rcases h with rfl | rfl
  · rw [Nat.add_zero, Nat.add_zero, Array.extract_empty_of_stop_le_start (Nat.le_refl _),
      Array.extract_empty_of_stop_le_start (Nat.le_refl _)]
  · rfl

theorem Block.Covers.stands (h : b.Covers old new i j x y) (hx : x ≤ old.size)
    (hy : y ≤ new.size) : Stands old new (b.rows old new) i j x y := by
  cases h with
  | keep keeps pos len oldStart newStart agree oldStop newStop =>
    rw [oldStop] at hx
    rw [newStop] at hy
    rw [Block.rows, if_pos keeps, Block.oldEnd, oldStart, oldStop, newStop, Stands,
      ← agree.extract_eq hx hy, List.filterMap_map, List.filterMap_map]
    exact ⟨List.filterMap_some, List.filterMap_some⟩
  | change changes pos oldStart newStart oldStop newStop =>
    rw [Block.rows, if_neg (by simp [changes]), Block.oldEnd, Block.newEnd,
      extract_of_start old oldStart, extract_of_start new newStart, ← oldStop, ← newStop, Stands,
      List.filterMap_append, List.filterMap_append]
    simp only [List.filterMap_map, Row.old?_comp_deleted, Row.old?_comp_inserted,
      Row.new?_comp_deleted, Row.new?_comp_inserted, List.filterMap_some, List.filterMap_none,
      List.append_nil, List.nil_append, and_self]

theorem chain_le (h : Chain (Block.Covers old new) hunk i j x y) : i ≤ x ∧ j ≤ y := by
  induction h with
  | nil => exact ⟨Nat.le_refl _, Nat.le_refl _⟩
  | cons hb hs ih =>
    have hle := hb.lt
    omega

theorem toList_extract_append (lines : Array String) {z : Nat} (hx : i ≤ x) (hz : x ≤ z) :
    (lines.extract i x).toList ++ (lines.extract x z).toList = (lines.extract i z).toList := by
  rw [← Array.toList_append, Array.extract_append_extract, Nat.min_eq_left hx, Nat.max_eq_right hz]

theorem chain_stands (h : Chain (Block.Covers old new) hunk i j x y) (hx : x ≤ old.size)
    (hy : y ≤ new.size) : Stands old new (hunk.flatMap (Block.rows old new)) i j x y := by
  induction hunk generalizing i j with
  | nil =>
    obtain ⟨rfl, rfl⟩ := chain_nil.1 h
    simp [Stands]
  | cons b hunk ih =>
    obtain ⟨i', j', hb, hs⟩ := chain_cons.1 h
    have hle := hb.lt
    have hle' := chain_le hs
    obtain ⟨hold, hnew⟩ := hb.stands (by omega) (by omega)
    obtain ⟨holds, hnews⟩ := ih hs
    rw [List.flatMap_cons, Stands, List.filterMap_append, List.filterMap_append, hold, holds, hnew,
      hnews]
    exact ⟨toList_extract_append old hle.1 hle'.1, toList_extract_append new hle.2.1 hle'.2⟩

end CommandForge.Patch
