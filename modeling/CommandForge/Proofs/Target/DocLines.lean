import Mathlib.Data.List.TakeWhile
import CommandForge.Proofs.Target.SourceLines
/-!
# Documentation lines

No line of a documentation holds a line feed, and none gets one by being written as a comment: so
whatever a documentation says, each of its lines is one row of the file.
-/

namespace CommandForge

namespace Text

theorem mem_of_mem_dropFinalReturn {c : Char} {cs : List Char} (h : c ∈ dropFinalReturn cs) :
    c ∈ cs := by
  unfold dropFinalReturn at h
  split at h
  · exact (List.dropLast_sublist cs).subset h
  · exact h

theorem mem_dropEmptyEnds {line : List Char} {lines : List (List Char)} (h : line ∈ lines)
    (hne : line ≠ []) : line ∈ dropEmptyEnds lines := by
  have hkept : ∀ {ls : List (List Char)}, line ∈ ls → line ∈ ls.dropWhile List.isEmpty := by
    intro ls hl
    rw [← List.takeWhile_append_dropWhile (p := List.isEmpty) (l := ls)] at hl
    rcases List.mem_append.1 hl with hl | hl
    · exact absurd (List.isEmpty_iff.1 (List.mem_takeWhile_imp hl)) hne
    · exact hl
  rw [dropEmptyEnds, List.mem_reverse]
  exact hkept (List.mem_reverse.2 (hkept h))

/-- Every line of a text lies within one of its pieces. -/
theorem exists_piece_of_mem_linesOfPieces {pieces : List (List Char)} {line : List Char}
    (h : line ∈ linesOfPieces pieces) : ∃ piece ∈ pieces, ∀ c ∈ line, c ∈ piece := by
  induction pieces with
  | nil => simp [linesOfPieces] at h
  | cons piece pieces ih =>
    cases pieces with
    | nil =>
      simp only [linesOfPieces] at h
      split at h
      · simp at h
      · exact ⟨piece, List.mem_cons_self, fun c hc => List.mem_singleton.1 h ▸ hc⟩
    | cons next pieces =>
      rw [linesOfPieces, List.mem_cons] at h
      rcases h with rfl | h
      · exact ⟨piece, List.mem_cons_self, fun c => mem_of_mem_dropFinalReturn⟩
      · obtain ⟨p, hp, hc⟩ := ih h
        exact ⟨p, List.mem_cons_of_mem piece hp, hc⟩

theorem newline_notMem_of_mem_lines {cs line : List Char} (h : line ∈ lines cs) : '\n' ∉ line := by
  obtain ⟨piece, hp, hc⟩ := exists_piece_of_mem_linesOfPieces h
  exact fun hn => not_mem_of_mem_split hp (hc '\n' hn)

/-- A replacement puts in nothing but what it replaces with. -/
theorem notMem_replaceAll {d p : Char} {pat with_ cs : List Char} (hw : d ∉ with_) (h : d ∉ cs) :
    d ∉ replaceAll p pat with_ cs := by
  fun_induction replaceAll p pat with_ cs with
  | case1 => simp
  | case2 c cs rest hrest ih =>
    have hcs := eq_append_of_dropPattern? hrest
    rw [hcs, List.mem_append, not_or] at h
    exact fun hd => (List.mem_append.1 hd).elim hw (ih h.2)
  | case3 c cs hnone ih =>
    simp only [List.mem_cons, not_or] at h ⊢
    exact ⟨h.1, ih h.2⟩

end Text

/-! ## Lines as they are written -/

namespace Target

theorem newline_notMem_of_mem_docLines {docs : Option String} {line : List Char}
    (h : line ∈ docLines docs) : '\n' ∉ line := by
  cases docs with
  | none => simp [docLines] at h
  | some text =>
    obtain ⟨l, hl, rfl⟩ := List.mem_map.1 ((Text.dropEmptyEnds_sublist _).subset h)
    exact fun hn => Text.newline_notMem_of_mem_lines hl ((Text.trim_sublist l).subset hn)

theorem isLine_append_ofList {mark : String} {line : List Char} (hm : IsLine mark)
    (hl : '\n' ∉ line) : IsLine (mark ++ String.ofList line) :=
  isLine_append.2 ⟨hm, isLine_ofList.2 hl⟩

theorem isLine_marked {mark : String} {line : List Char} (hm : IsLine mark) (hl : '\n' ∉ line) :
    IsLine (marked mark line) := by
  unfold marked
  split
  · exact hm
  · exact isLine_append_ofList (isLine_append.2 ⟨hm, by decide⟩) hl

/-- The mark decides a test, whatever the text behind it. -/
theorem test_marked {f : List Char → Bool} {b : Bool} {mark : String} {cs line : List Char}
    (h : mark = String.ofList cs) (hf : ∀ rest, f (cs ++ rest) = b) :
    f (marked mark line).toList = b := by
  unfold marked
  split
  · have hmark := hf []
    rw [List.append_nil] at hmark
    exact test_lit h hmark
  · rw [String.append_assoc]
    exact test_append h hf

theorem newline_notMem_blockCommentText {line : List Char} (h : '\n' ∉ line) :
    '\n' ∉ blockCommentText line :=
  Text.notMem_replaceAll (by decide) h

/-! ## Lines behind blanks -/

/-- A line that starts with blanks. -/
def lineAt (indent : Nat) (cs : List Char) : String :=
  String.ofList (List.replicate indent ' ' ++ cs)

/-- The text behind a blank, if there is any. -/
def spaced (text : List Char) : List Char := if text.isEmpty then [] else ' ' :: text

theorem toList_lineAt (indent : Nat) (cs : List Char) :
    (lineAt indent cs).toList = List.replicate indent ' ' ++ cs :=
  String.toList_ofList

theorem lineAt_append (indent : Nat) (cs text : List Char) :
    lineAt indent cs ++ String.ofList text = lineAt indent (cs ++ text) := by
  rw [lineAt, lineAt, ← String.ofList_append, List.append_assoc]

theorem dropWhile_lineAt (indent : Nat) {c : Char} (hc : c ≠ ' ') (cs : List Char) :
    (lineAt indent (c :: cs)).toList.dropWhile (· == ' ') = c :: cs := by
  rw [toList_lineAt, List.dropWhile_append_of_pos (by simp [List.mem_replicate]),
    List.dropWhile_cons_of_neg (by simpa using hc)]

section

variable {s t : String} {cs ds : List Char} {indent : Nat} (hs : s = String.ofList cs)
  (hcs : cs = List.replicate indent ' ') (ht : t = String.ofList ds)

include hs hcs ht

theorem append_eq_lineAt : s ++ t = lineAt indent ds := by
  rw [lineAt, ← hcs]
  exact lit_append hs ht

theorem marked_eq_lineAt (text : List Char) :
    marked (s ++ t) text = lineAt indent (ds ++ spaced text) := by
  have hblank : " " = String.ofList [' '] := rfl
  rw [append_eq_lineAt hs hcs ht]
  unfold marked spaced
  split
  · rw [List.append_nil]
  · rw [hblank, lineAt_append, lineAt_append, List.append_assoc, List.singleton_append]

end

end Target

end CommandForge
