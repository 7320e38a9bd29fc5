import CommandForge.Text.Blank
/-!
# Lines

A text is cut at each line feed. `split` keeps every piece, the empty one after a final line feed
included, so that joining the pieces gives the text back; `lines` is what a reader calls lines: a
carriage return before the line feed belongs to the terminator, and a final empty piece is no line.
`terminated` cuts behind a line feed, a carriage return or both, and leaves them in place.
-/

namespace CommandForge.Text

/-- The pieces of `cs` between the occurrences of `sep`; there is always one more piece than
occurrences. -/
def split (sep : Char) : List Char → List (List Char)
  | [] => [[]]
  | c :: cs =>
    if c = sep then [] :: split sep cs
    else
      match split sep cs with
      | [] => [[c]]
      | piece :: pieces => (c :: piece) :: pieces

/-- `pieces` with `sep` between neighbours. -/
def join (sep : Char) : List (List Char) → List Char
  | [] => []
  | [piece] => piece
  | piece :: next :: pieces => piece ++ sep :: join sep (next :: pieces)

/-- `cs` without one carriage return at its end. -/
def dropFinalReturn (cs : List Char) : List Char :=
  if cs.getLast? = some '\r' then cs.dropLast else cs

/-- The lines of a text whose pieces between line feeds are given: all but the last piece end in
a line feed, and the last is a line only if something is in it. -/
def linesOfPieces : List (List Char) → List (List Char)
  | [] => []
  | [last] => if last.isEmpty then [] else [last]
  | piece :: next :: pieces => dropFinalReturn piece :: linesOfPieces (next :: pieces)

/-- The lines of `cs`. -/
def lines (cs : List Char) : List (List Char) := linesOfPieces (split '\n' cs)

/-- The lines of `cs` with what ends them: a line feed, a carriage return, or both. -/
def terminated : List Char → List (List Char)
  | [] => []
  | '\r' :: '\n' :: cs => ['\r', '\n'] :: terminated cs
  | c :: cs =>
    if c = '\n' ∨ c = '\r' then [c] :: terminated cs
    else
      match terminated cs with
      | [] => [[c]]
      | line :: rest => (c :: line) :: rest

theorem flatten_terminated (cs : List Char) : (terminated cs).flatten = cs := by
  fun_induction terminated cs with
  | case1 => rfl
  | case2 cs ih => simp [ih]
  | case3 c cs _ _ ih => simp [ih]
  | case4 c cs _ _ h ih => rw [h] at ih; simpa using ih
  | case5 c cs _ _ line rest h ih => rw [h] at ih; simpa using ih

theorem split_ne_nil (sep : Char) (cs : List Char) : split sep cs ≠ [] := by
  cases cs with
  | nil => simp [split]
  | cons c cs =>
    simp only [split]
    split
    · simp
    · split <;> simp

theorem join_split (sep : Char) (cs : List Char) : join sep (split sep cs) = cs := by
  induction cs with
  | nil => rfl
  | cons c cs ih =>
    cases hs : split sep cs with
    | nil => exact absurd hs (split_ne_nil sep cs)
    | cons piece pieces =>
      rw [hs] at ih
      by_cases h : c = sep
      · rw [split, if_pos h, hs, join, ih, h, List.nil_append]
      · rw [split, if_neg h, hs]
        cases pieces with
        | nil => rw [join] at ih; simp only [join, ih]
        | cons next pieces => rw [join] at ih; simp only [join, List.cons_append, ih]

theorem split_append_cons (sep : Char) (cs ds : List Char) :
    split sep (cs ++ sep :: ds) = split sep cs ++ split sep ds := by
  induction cs with
  | nil => simp [split]
  | cons c cs ih =>
    by_cases h : c = sep
    · simp [split, h, ih]
    · obtain ⟨piece, pieces, hs⟩ := List.exists_cons_of_ne_nil (split_ne_nil sep cs)
      rw [hs] at ih
      simp [split, h, ih, hs]

theorem split_of_notMem {sep : Char} {cs : List Char} (h : sep ∉ cs) : split sep cs = [cs] := by
  induction cs with
  | nil => rfl
  | cons c cs ih =>
    simp only [List.mem_cons, not_or] at h
    rw [split, if_neg (Ne.symm h.1), ih h.2]

/-- No piece holds the separator. -/
theorem not_mem_of_mem_split {sep : Char} {cs piece : List Char} (h : piece ∈ split sep cs) :
    sep ∉ piece := by
  induction cs generalizing piece with
  | nil => simp_all [split]
  | cons c cs ih =>
    by_cases hc : c = sep
    · simp only [split, hc, ↓reduceIte, List.mem_cons] at h
      rcases h with rfl | h
      · simp
      · exact ih h
    · cases hs : split sep cs with
      | nil => exact absurd hs (split_ne_nil sep cs)
      | cons first rest =>
        simp only [split, hc, ↓reduceIte, hs, List.mem_cons] at h
        rcases h with rfl | h
        · have : sep ∉ first := ih (by simp [hs])
          simp only [List.mem_cons, not_or]
          exact ⟨fun e => hc e.symm, this⟩
        · exact ih (by simp [hs, h])

end CommandForge.Text
