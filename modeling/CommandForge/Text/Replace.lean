/-!
# Replacing parts of a text

Occurrences are found from the left and do not overlap: the search goes on behind each occurrence.
-/

namespace CommandForge.Text

/-- What follows `pat` when `cs` starts with it. -/
def dropPattern? : List Char → List Char → Option (List Char)
  | [], cs => some cs
  | _ :: _, [] => none
  | p :: pat, c :: cs => if p = c then dropPattern? pat cs else none

theorem eq_append_of_dropPattern? {pat cs rest : List Char} (h : dropPattern? pat cs = some rest) :
    cs = pat ++ rest := by
  induction pat generalizing cs with
  | nil => simp_all [dropPattern?]
  | cons p pat ih =>
    cases cs with
    | nil => simp [dropPattern?] at h
    | cons c cs =>
      simp only [dropPattern?] at h
      split at h
      · rename_i hpc
        simp [hpc, ih h]
      · simp at h

/-- `cs` with every occurrence of the pattern `p :: pat` replaced by `with_`. -/
def replaceAll (p : Char) (pat with_ : List Char) : List Char → List Char
  | [] => []
  | c :: cs =>
    match _h : dropPattern? (p :: pat) (c :: cs) with
    | some rest => with_ ++ replaceAll p pat with_ rest
    | none => c :: replaceAll p pat with_ cs
termination_by cs => cs.length
decreasing_by
  · have := congrArg List.length (eq_append_of_dropPattern? _h)
    simp only [List.length_cons, List.length_append] at this ⊢
    omega
  · simp

/-- The pieces of `cs` between the occurrences of the pattern `p :: pat`. -/
def splitPattern (p : Char) (pat : List Char) : List Char → List (List Char)
  | [] => [[]]
  | c :: cs =>
    match _h : dropPattern? (p :: pat) (c :: cs) with
    | some rest => [] :: splitPattern p pat rest
    | none =>
      match splitPattern p pat cs with
      | [] => [[c]]
      | piece :: pieces => (c :: piece) :: pieces
termination_by cs => cs.length
decreasing_by
  · have := congrArg List.length (eq_append_of_dropPattern? _h)
    simp only [List.length_cons, List.length_append] at this ⊢
    omega
  · simp

/-- `cs` with its first occurrence of `pat` replaced. -/
def replaceFirst (pat with_ : List Char) : List Char → List Char
  | [] => if pat.isEmpty then with_ else []
  | c :: cs =>
    match dropPattern? pat (c :: cs) with
    | some rest => with_ ++ rest
    | none => c :: replaceFirst pat with_ cs

end CommandForge.Text
