import CommandForge.Patch.Search
import CommandForge.Patch.Tidy
import CommandForge.Text.Lines
/-!
# Patches as text

Neighbouring edits become blocks, kept ones and changes by turns. Blocks with little between them
are shown together in a hunk, under a header that gives its ranges in the old and in the new text;
a few kept lines around the changes are shown as well.
-/

namespace CommandForge.Patch

/-- A run of edits that all keep, or that all change. -/
structure Block where
  keeps : Bool
  oldStart : Nat
  oldLen : Nat
  newStart : Nat
  newLen : Nat
  deriving DecidableEq, Repr

namespace Block

/-- The old range of the deletions and the new range of the insertions of a run of changes. A side
that no edit touches starts where the first edit says. -/
def ofChanges (run : List Edit) : Block :=
  let deletions := run.filter (·.kind = .delete)
  let insertions := run.filter (·.kind = .insert)
  let deleted := deletions.foldl (fun n e => n + e.oldLen) 0
  let inserted := insertions.foldl (fun n e => n + e.newLen) 0
  match deletions, insertions with
  | d :: _, i :: _ => ⟨false, d.oldStart, deleted, i.newStart, inserted⟩
  | d :: _, [] => ⟨false, d.oldStart, deleted, d.newStart, 0⟩
  | [], i :: _ => ⟨false, i.oldStart, 0, i.newStart, inserted⟩
  | [], [] => ⟨false, 0, 0, 0, 0⟩

/-- The block of a run of edits. -/
def ofRun (run : List Edit) : Block :=
  match run with
  | e :: _ =>
    if e.kind = .keep then
      let len := run.foldl (fun n e => n + e.oldLen) 0
      ⟨true, e.oldStart, len, e.newStart, len⟩
    else ofChanges run
  | [] => ⟨false, 0, 0, 0, 0⟩

/-- The first `n` items of a kept block. -/
def first (b : Block) (n : Nat) : Block :=
  { b with oldLen := min b.oldLen n, newLen := min b.newLen n }

/-- The last `n` items of a kept block. -/
def last (b : Block) (n : Nat) : Block :=
  let dropped := b.oldLen - n
  ⟨b.keeps, b.oldStart + dropped, b.oldLen - dropped, b.newStart + dropped, b.newLen - dropped⟩

/-- The end of the old range. -/
def oldEnd (b : Block) : Nat := b.oldStart + b.oldLen

/-- The end of the new range. -/
def newEnd (b : Block) : Nat := b.newStart + b.newLen

end Block

/-- The blocks of a script. -/
def blocks (script : List Edit) : List Block :=
  (script.splitBy fun a b => (a.kind = .keep) == (b.kind = .keep)).map Block.ofRun

/-- How many kept lines are shown around a change. -/
def context : Nat := 3

/-- A kept block at the front, cut down to the lines before the first change. -/
def trimFront : List Block → List Block
  | b :: rest => if b.keeps then b.last context :: rest else b :: rest
  | [] => []

/-- A kept block at the end, cut down to the lines behind the last change. -/
def trimBack : List Block → List Block
  | [] => []
  | [b] => if b.keeps then [b.first context] else [b]
  | b :: next :: rest => b :: trimBack (next :: rest)

/-- Blocks that are shown together. -/
abbrev Hunk := List Block

/-- Cuts blocks into hunks at long kept blocks. `pending` holds the hunk so far. -/
def cutHunks (pending : Hunk) : List Block → List Hunk
  | [] =>
    match pending with
    | [] => []
    | [b] => if b.keeps then [] else [pending]
    | _ => [pending]
  | b :: rest =>
    if b.keeps && 2 * context < b.oldLen then
      (pending ++ [b.first context]) :: cutHunks [b.last context] rest
    else cutHunks (pending ++ [b]) rest

/-- The hunks of a script. -/
def hunks (script : List Edit) : List Hunk := cutHunks [] (trimBack (trimFront (blocks script)))

/-- A range of lines, counted from one. An empty range is shown by the line before it. -/
def rangeText (start stop : Nat) : String :=
  let len := stop - start
  if len = 1 then toString (start + 1)
  else if len = 0 then toString start ++ ",0"
  else toString (start + 1) ++ "," ++ toString len

/-- The header of a hunk. -/
def headerText (hunk : Hunk) : String :=
  match hunk.head?, hunk.getLast? with
  | some first, some last =>
    "@@ -" ++ rangeText first.oldStart last.oldEnd ++ " +" ++ rangeText first.newStart last.newEnd
      ++ " @@\n"
  | _, _ => ""

/-- Lines of a range, each behind a mark. -/
def marked (mark : String) (lines : Array String) (start stop : Nat) : String :=
  String.join ((lines.extract start stop).toList.map (mark ++ ·))

/-- The lines of a block: kept ones, or the deleted and then the inserted ones. -/
def blockText (old new : Array String) (b : Block) : String :=
  if b.keeps then marked " " old b.oldStart b.oldEnd
  else marked "-" old b.oldStart b.oldEnd ++ marked "+" new b.newStart b.newEnd

/-- A hunk with its header. -/
def hunkText (old new : Array String) (hunk : Hunk) : String :=
  headerText hunk ++ String.join (hunk.map (blockText old new))

/-- The lines of a text with what ends them. -/
def linesOf (text : String) : Array String :=
  ((Text.terminated text.toList).map String.ofList).toArray

/-- The tidied script that turns `old` into `new`. -/
def script (old new : Array String) : List Edit := tidy old new (search old new)

/-- The patch from one text to another; empty if nothing changes. -/
def unified (expected actual : String) : String :=
  let old := linesOf expected
  let new := linesOf actual
  match hunks (script old new) with
  | [] => ""
  | hunks => "--- expected\n+++ actual\n" ++ String.join (hunks.map (hunkText old new))

end CommandForge.Patch
