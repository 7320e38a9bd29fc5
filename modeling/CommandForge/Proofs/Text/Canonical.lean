import Mathlib.Data.List.DropRight
import CommandForge.Proofs.Text.Trimmed
import CommandForge.Text.Canonical
/-!
# Canonical texts

Two texts have one canonical form exactly when they have the same bare lines: the pieces between
line feeds, without blank characters at their ends and without empty pieces at either end of the
text (`bareLines`). A canonical text is its bare lines, each closed by a line feed, and these are
found again in it (`bareLines_closed`). That a carriage return belongs to the terminator, and that
nothing stands behind the last one, makes no difference: a carriage return is blank, and so is an
empty piece (`solidLines_eq`).
-/

namespace CommandForge.Text

/-- The pieces of a text between line feeds, without blank characters at their ends, and without
empty pieces at either end. -/
def bareLines (s : String) : List (List Char) :=
  (((split '\n' s.toList).map (List.rdropWhile isBlank)).dropWhile List.isEmpty).rdropWhile
    List.isEmpty

/-- The text with `pad i` put before its line feed at the position `i`. -/
def padded (pad : ℕ → List Char) (s : String) : String :=
  String.ofList (s.toList.zipIdx.flatMap fun (c, i) => if c = '\n' then pad i ++ [c] else [c])

/-! ## Empty lines at the ends -/

section Ends

variable {α : Type} {p : α → Bool}

theorem dropWhile_rdropWhile {xs : List α} (h : xs.dropWhile p = xs) :
    (xs.rdropWhile p).dropWhile p = xs.rdropWhile p := by
  obtain ⟨rest, hrest⟩ := List.rdropWhile_prefix p xs
  cases hfront : xs.rdropWhile p with
  | nil => rfl
  | cons x front =>
    rw [hfront] at hrest
    have hx : p x = false := by
      rw [← hrest] at h
      by_contra hx
      rw [List.cons_append, List.dropWhile_cons_of_pos (by simpa using hx)] at h
      have hlength := congrArg List.length h
      have hle := (List.dropWhile_sublist (l := front ++ rest) p).length_le
      rw [List.length_cons] at hlength
      omega
    exact List.dropWhile_cons_of_neg (by simp [hx])

theorem rdropWhile_dropWhile_concat {x : α} (hx : p x = true) (xs : List α) :
    ((xs ++ [x]).dropWhile p).rdropWhile p = (xs.dropWhile p).rdropWhile p := by
  rw [List.dropWhile_append]
  split
  · rename_i hempty
    rw [List.isEmpty_iff.1 hempty, List.dropWhile_cons_of_pos hx, List.dropWhile_nil]
  · exact List.rdropWhile_concat_pos p _ x hx

end Ends

theorem dropEmptyEnds_eq (ls : List (List Char)) :
    dropEmptyEnds ls = (ls.dropWhile List.isEmpty).rdropWhile List.isEmpty := rfl

theorem bareLines_eq (s : String) :
    bareLines s = dropEmptyEnds ((split '\n' s.toList).map trimEnd) := rfl

theorem dropEmptyEnds_dropEmptyEnds (ls : List (List Char)) :
    dropEmptyEnds (dropEmptyEnds ls) = dropEmptyEnds ls := by
  have hdrop : (ls.dropWhile List.isEmpty).dropWhile List.isEmpty = ls.dropWhile List.isEmpty :=
    List.dropWhile_idempotent _ _
  rw [dropEmptyEnds_eq, dropEmptyEnds_eq, dropWhile_rdropWhile hdrop,
    List.rdropWhile_idempotent]

theorem dropEmptyEnds_concat_nil (ls : List (List Char)) :
    dropEmptyEnds (ls ++ [[]]) = dropEmptyEnds ls :=
  rdropWhile_dropWhile_concat rfl ls

/-! ## Bare lines -/

/-- Lines that lose nothing when they are made bare. -/
structure AreBare (ls : List (List Char)) : Prop where
  newline_notMem : ∀ l ∈ ls, '\n' ∉ l
  trimEnd_eq : ∀ l ∈ ls, trimEnd l = l
  dropEmptyEnds_eq : dropEmptyEnds ls = ls

/-- Lines with a line feed behind each. -/
def closed (ls : List (List Char)) : List Char := ls.flatMap (· ++ ['\n'])

theorem trimEnd_trimEnd (cs : List Char) : trimEnd (trimEnd cs) = trimEnd cs :=
  List.rdropWhile_idempotent _ _

theorem areBare_bareLines (s : String) : AreBare (bareLines s) := by
  have hline : ∀ l ∈ bareLines s, ∃ piece ∈ split '\n' s.toList, trimEnd piece = l :=
    fun l hl => List.mem_map.1 ((dropEmptyEnds_sublist _).subset hl)
  refine ⟨fun l hl => ?_, fun l hl => ?_, dropEmptyEnds_dropEmptyEnds _⟩
  · obtain ⟨piece, hpiece, rfl⟩ := hline l hl
    intro hnewline
    exact not_mem_of_mem_split hpiece ((List.rdropWhile_prefix isBlank piece).subset hnewline)
  · obtain ⟨piece, -, rfl⟩ := hline l hl
    exact trimEnd_trimEnd piece

theorem split_closed {ls : List (List Char)} (h : ∀ l ∈ ls, '\n' ∉ l) :
    split '\n' (closed ls) = ls ++ [[]] := by
  induction ls with
  | nil => rfl
  | cons l ls ih =>
    obtain ⟨hl, hls⟩ := List.forall_mem_cons.1 h
    have hclosed : closed (l :: ls) = l ++ '\n' :: closed ls := by simp [closed]
    rw [hclosed, split_append_cons, split_of_notMem hl, ih hls]
    rfl

/-- Bare lines are found again when each is closed by a line feed. -/
theorem bareLines_closed {ls : List (List Char)} (h : AreBare ls) :
    bareLines (String.ofList (closed ls)) = ls := by
  have htrim : ls.map trimEnd = ls :=
    (List.map_congr_left h.trimEnd_eq).trans (List.map_id' ls)
  have hnil : trimEnd [] = [] := rfl
  rw [bareLines_eq, String.toList_ofList, split_closed h.newline_notMem, List.map_append, htrim,
    List.map_singleton, hnil, dropEmptyEnds_concat_nil, h.dropEmptyEnds_eq]

/-! ## Solid lines -/

theorem trimEnd_dropFinalReturn (cs : List Char) : trimEnd (dropFinalReturn cs) = trimEnd cs := by
  unfold dropFinalReturn
  split
  · rename_i hlast
    obtain ⟨front, rfl⟩ := List.getLast?_eq_some_iff.1 hlast
    have hblank : isBlank '\r' = true := by decide
    rw [List.dropLast_concat]
    exact (List.rdropWhile_concat_pos isBlank front '\r' hblank).symm
  · rfl

theorem map_trimEnd_linesOfPieces (pieces : List (List Char)) :
    (linesOfPieces pieces).map trimEnd = pieces.map trimEnd ∨
      (linesOfPieces pieces).map trimEnd ++ [[]] = pieces.map trimEnd := by
  induction pieces with
  | nil => exact .inl rfl
  | cons piece pieces ih =>
    cases pieces with
    | nil =>
      rw [linesOfPieces]
      split
      · rename_i hempty
        obtain rfl := List.isEmpty_iff.1 hempty
        exact .inr rfl
      · exact .inl rfl
    | cons next pieces =>
      rw [linesOfPieces, List.map_cons, List.map_cons, trimEnd_dropFinalReturn, List.cons_append]
      exact ih.imp (congrArg (List.cons _)) (congrArg (List.cons _))

theorem solidLines_eq (s : String) : solidLines s.toList = bareLines s := by
  rw [solidLines, bareLines_eq, lines]
  rcases map_trimEnd_linesOfPieces (split '\n' s.toList) with h | h
  · rw [h]
  · rw [← h, dropEmptyEnds_concat_nil]

theorem canonical_eq (s : String) : canonical s = String.ofList (closed (bareLines s)) := by
  rw [canonical, canonicalChars, solidLines_eq, closed]

theorem bareLines_canonical (s : String) : bareLines (canonical s) = bareLines s := by
  rw [canonical_eq, bareLines_closed (areBare_bareLines s)]

/-! ## Blank characters before line feeds -/

section Padded

variable {pad : ℕ → List Char} (hpad : ∀ i, ∀ c ∈ pad i, isBlank c = true ∧ c ≠ '\n')

theorem trimEnd_cons_congr {cs ds : List Char} (h : trimEnd cs = trimEnd ds) (c : Char) :
    trimEnd (c :: cs) = trimEnd (c :: ds) := by
  have hreverse : cs.reverse.dropWhile isBlank = ds.reverse.dropWhile isBlank :=
    List.reverse_injective h
  simp only [trimEnd, List.reverse_cons, List.dropWhile_append, hreverse]

theorem map_trimEnd_split_cons {c : Char} (hc : c ≠ '\n') {cs ds : List Char}
    (h : (split '\n' cs).map trimEnd = (split '\n' ds).map trimEnd) :
    (split '\n' (c :: cs)).map trimEnd = (split '\n' (c :: ds)).map trimEnd := by
  obtain ⟨p, ps, hcs⟩ := List.exists_cons_of_ne_nil (split_ne_nil '\n' cs)
  obtain ⟨q, qs, hds⟩ := List.exists_cons_of_ne_nil (split_ne_nil '\n' ds)
  rw [hcs, hds, List.map_cons, List.map_cons] at h
  obtain ⟨hfirst, hrest⟩ := List.cons.inj h
  simp only [split, if_neg hc, hcs, hds, List.map_cons]
  rw [trimEnd_cons_congr hfirst, hrest]

include hpad

theorem map_trimEnd_split_padded (cs : List Char) (start : ℕ) :
    (split '\n' ((cs.zipIdx start).flatMap fun (c, i) =>
        if c = '\n' then pad i ++ [c] else [c])).map trimEnd = (split '\n' cs).map trimEnd := by
  induction cs generalizing start with
  | nil => rfl
  | cons c cs ih =>
    simp only [List.zipIdx_cons, List.flatMap_cons]
    by_cases hc : c = '\n'
    · have hblank : trimEnd (pad start) = [] := by
        rw [trimEnd_eq_rdropWhile, List.rdropWhile_eq_nil_iff]
        exact fun d hd => (hpad start d hd).1
      have hline : '\n' ∉ pad start := fun hn => (hpad start '\n' hn).2 rfl
      rw [if_pos hc, hc, List.append_assoc, List.singleton_append, split_append_cons,
        split_of_notMem hline, split, if_pos rfl, List.singleton_append, List.map_cons,
        List.map_cons, hblank, ih]
      rfl
    · rw [if_neg hc, List.singleton_append]
      exact map_trimEnd_split_cons hc (ih (start + 1))

theorem bareLines_padded (s : String) : bareLines (padded pad s) = bareLines s := by
  rw [bareLines_eq, bareLines_eq, padded, String.toList_ofList, map_trimEnd_split_padded hpad]

end Padded

/-! ## The canonical form -/

/-- **Two texts have one canonical form exactly when they have the same bare lines.** A canonical
text is its own canonical form, and blank characters that are put before line feeds, such as a
carriage return before each, do not change the form. -/
theorem canonical_form (s : String) :
    (∀ t, canonical s = canonical t ↔ bareLines s = bareLines t) ∧
      canonical (canonical s) = canonical s ∧
      ∀ pad : ℕ → List Char, (∀ i, ∀ c ∈ pad i, isBlank c = true ∧ c ≠ '\n') →
        canonical (padded pad s) = canonical s := by
  refine ⟨fun t => ⟨fun h => ?_, fun h => ?_⟩, ?_, fun pad hpad => ?_⟩
  · rw [← bareLines_canonical s, h, bareLines_canonical]
  · rw [canonical_eq, canonical_eq, h]
  · rw [canonical_eq, bareLines_canonical, ← canonical_eq]
  · rw [canonical_eq, bareLines_padded hpad, ← canonical_eq]

/-- A carriage return before each line feed. -/
theorem canonical_form_carriageReturns :
    let s := "\n \na \n\n\tb"
    let pad : ℕ → List Char := fun _ => ['\r']
    (∀ i, ∀ c ∈ pad i, isBlank c = true ∧ c ≠ '\n') ∧
      padded pad s = "\r\n \r\na \r\n\r\n\tb" ∧ canonical (padded pad s) = canonical s ∧
      canonical s = "a\n\n\tb\n" := by
  intro s pad
  have hpad : ∀ i, ∀ c ∈ pad i, isBlank c = true ∧ c ≠ '\n' := by
    intro i c hc
    obtain rfl := List.mem_singleton.1 hc
    decide
  exact ⟨hpad, by decide +kernel, (canonical_form s).2.2 pad hpad, by decide +kernel⟩

end CommandForge.Text
