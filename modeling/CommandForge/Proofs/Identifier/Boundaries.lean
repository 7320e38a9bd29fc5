import Mathlib.Data.List.TakeWhile
import CommandForge.Proofs.Identifier.Normalized
/-!
# Word boundaries

The two passes of the normalizer find the boundaries that one rule finds by looking at the
neighbours of each capital (`startsWord`): behind a small letter or digit, or in front of a small
letter. The first pass goes on behind the tail of the word that it has separated, so it leaves out
a capital directly behind that tail; but the tail ends in a small letter there, so the second pass
separates it. Neither pass puts an underscore where the other has, since an underscore is no small
letter. `behind` is the rule as a recursion, which the two passes are proved to compute
(`separateCapitals_separateTails`); the positions come in at the end (`normalize_eq_separated`).
-/

namespace CommandForge.Identifier

/-! ## The rule -/

/-- A small letter or a digit: what a capital is separated from. -/
def isSmall (c : Char) : Bool := c.isLower || c.isDigit

/-- A word starts at the position `i`: there is a capital, behind the first character, and a small
letter or digit stands before it or a small letter behind it. -/
def startsWord (cs : List Char) (i : ℕ) : Bool :=
  1 ≤ i && cs[i]?.any Char.isUpper && (cs[i - 1]?.any isSmall || cs[i + 1]?.any Char.isLower)

/-- The characters in lowercase, with an underscore before each position where a word starts. -/
def separated (cs : List Char) : List Char :=
  cs.zipIdx.flatMap fun (c, i) => if startsWord cs i then ['_', c.toLower] else [c.toLower]

/-! ## One pass -/

/-- A word starts with `c` when `before` stands in front of it and `after` follows. -/
def startsBetween (before c : Char) (after : Option Char) : Bool :=
  c.isUpper && (isSmall before || after.any Char.isLower)

/-- The underscore that stands where a word starts. -/
def gap (starts : Bool) : List Char := if starts then ['_'] else []

/-- The characters behind `before`, with an underscore before each start of a word. -/
def behind (before : Char) : List Char → List Char
  | [] => []
  | c :: cs => gap (startsBetween before c cs.head?) ++ c :: behind c cs

/-- The characters with an underscore before each start of a word. -/
def spaced : List Char → List Char
  | [] => []
  | c :: cs => c :: behind c cs

theorem isAlphanum_of_isSmall {c : Char} (h : isSmall c = true) : c.isAlphanum = true :=
  (Bool.or_eq_true_iff.1 h).elim (fun hl => isAlphanum_of_isAlpha (isAlpha_of_isLower hl))
    isAlphanum_of_isDigit

theorem isWireChar_of_isSmall {c : Char} (h : isSmall c = true) : isWireChar c = true :=
  Bool.or_eq_true_iff.2 (.inl h)

theorem isUpper_eq_false_of_isSmall {c : Char} (h : isSmall c = true) : c.isUpper = false :=
  forall_ascii (p := fun c => isSmall c = true → c.isUpper = false) (by decide)
    (toNat_lt_of_isAlphanum (isAlphanum_of_isSmall h)) h

theorem isSmall_eq_false_of_isUpper {c : Char} (h : c.isUpper = true) : isSmall c = false := by
  cases hs : isSmall c with
  | false => rfl
  | true => simp [isUpper_eq_false_of_isSmall hs] at h

theorem isSmall_of_isLower {c : Char} (h : c.isLower = true) : isSmall c = true := by
  simp [isSmall, h]

theorem startsWord_append (before : List Char) (b c : Char) (cs : List Char) :
    startsWord (before ++ b :: c :: cs) (before.length + 1) = startsBetween b c cs.head? := by
  have hc : (before ++ b :: c :: cs)[before.length + 1]? = some c := by simp
  have hb : (before ++ b :: c :: cs)[before.length + 1 - 1]? = some b := by simp
  have hnext : (before ++ b :: c :: cs)[before.length + 1 + 1]? = cs.head? := by
    rw [List.getElem?_append_right (by omega), List.head?_eq_getElem?]
    simp [Nat.add_assoc]
  rw [startsWord, hc, hb, hnext, startsBetween]
  simp

/-- The positions behind `b`, counted from the start of the whole. -/
theorem flatMap_zipIdx_eq_behind (before : List Char) (b : Char) (cs : List Char) :
    ((cs.zipIdx (before.length + 1)).flatMap fun (c, i) =>
        if startsWord (before ++ b :: cs) i then ['_', c.toLower] else [c.toLower]) =
      (behind b cs).map Char.toLower := by
  induction cs generalizing before b with
  | nil => rfl
  | cons c cs ih =>
    have hrest := ih (before ++ [b]) c
    simp only [List.append_assoc, List.singleton_append, List.length_append,
      List.length_singleton] at hrest
    have hunderscore : '_'.toLower = '_' := by decide
    rw [List.zipIdx_cons, List.flatMap_cons, hrest, behind, gap]
    simp only [startsWord_append]
    split <;> simp [hunderscore]

theorem separated_eq (cs : List Char) : separated cs = (spaced cs).map Char.toLower := by
  cases cs with
  | nil => rfl
  | cons c cs =>
    have hfirst : startsWord (c :: cs) 0 = false := by simp [startsWord]
    have hrest := flatMap_zipIdx_eq_behind [] c cs
    simp only [List.nil_append, List.length_nil, Nat.zero_add] at hrest
    rw [separated, List.zipIdx_cons, List.flatMap_cons, hrest]
    simp [hfirst, spaced]

/-! ## Two passes -/

/-- The second pass looks at neighbours only: what it takes together with a character is a capital,
which no capital is separated from. -/
theorem separateCapitals_cons (a b : Char) (cs : List Char) :
    separateCapitals (a :: b :: cs) =
      a :: (gap (isSmall a && b.isUpper) ++ separateCapitals (b :: cs)) := by
  rw [separateCapitals, ← isSmall, gap]
  split
  · rename_i h
    have hb : isSmall b = false := isSmall_eq_false_of_isUpper (Bool.and_eq_true _ _ ▸ h).2
    cases cs with
    | nil => rfl
    | cons c cs =>
      rw [separateCapitals, ← isSmall, hb]
      rfl
  · rfl

theorem head?_separateTails (cs : List Char) : (separateTails cs).head? = cs.head? := by
  unfold separateTails
  split
  · split <;> rfl
  · rfl

/-- Nothing is separated within a tail, and a capital behind it stands behind a small letter. -/
theorem separateCapitals_tail {tail cs : List Char} (htail : ∀ c ∈ tail, c.isLower = true)
    {l : Char} (hl : l.isLower = true)
    (hcs : separateCapitals (separateTails cs) = spaced cs) :
    separateCapitals (l :: (tail ++ separateTails cs)) = l :: behind l (tail ++ cs) := by
  induction tail generalizing l with
  | nil =>
    have hhead := head?_separateTails cs
    cases cs with
    | nil =>
      rw [List.head?_nil, List.head?_eq_none_iff] at hhead
      simp [hhead, separateCapitals, behind]
    | cons c cs =>
      obtain ⟨rest, hrest⟩ := List.head?_eq_some_iff.1 hhead
      have hsmall := isSmall_of_isLower hl
      rw [List.nil_append, List.nil_append, hrest, separateCapitals_cons, ← hrest, hcs, spaced,
        behind, startsBetween, hsmall, Bool.true_and, Bool.true_or, Bool.and_true]
  | cons t tail ih =>
    obtain ⟨ht, hrest⟩ := List.forall_mem_cons.1 htail
    have hupper : t.isUpper = false := isUpper_eq_false_of_isSmall (isSmall_of_isLower ht)
    rw [List.cons_append, List.cons_append, separateCapitals_cons, ih hrest ht, behind,
      startsBetween, hupper, Bool.and_false, Bool.false_and]

/-- **The two passes compute the rule.** -/
theorem separateCapitals_separateTails (cs : List Char) :
    separateCapitals (separateTails cs) = spaced cs := by
  fun_induction separateTails cs with
  | case1 c u l cs hul ih =>
    -- The first pass separates `u`; in its tail and directly behind it the second pass decides.
    obtain ⟨hu, hl⟩ := Bool.and_eq_true _ _ ▸ hul
    have hlower : l.isUpper = false := isUpper_eq_false_of_isSmall (isSmall_of_isLower hl)
    have htail : ∀ d ∈ cs.takeWhile Char.isLower, d.isLower = true :=
      fun d hd => List.mem_takeWhile_imp hd
    have hunderscore : '_'.isUpper = false ∧ isSmall '_' = false := by decide
    rw [separateCapitals_cons, separateCapitals_cons, separateCapitals_cons,
      separateCapitals_tail htail hl ih, List.takeWhile_append_dropWhile, spaced, behind, behind]
    simp [startsBetween, gap, hu, hl, hlower, hunderscore]
  | case2 c u l cs hul ih =>
    -- The first pass separates nothing here, so a capital has no small letter behind it.
    obtain ⟨rest, hrest⟩ := List.head?_eq_some_iff.1 (head?_separateTails (u :: l :: cs))
    have hstarts : startsBetween c u (some l) = (isSmall c && u.isUpper) := by
      rw [startsBetween, Option.any_some]
      cases hu : u.isUpper <;> cases hl : l.isLower <;> simp_all
    rw [hrest, separateCapitals_cons, ← hrest, ih, ← hstarts]
    rfl
  | case3 cs hcs =>
    rcases cs with _ | ⟨c, _ | ⟨u, _ | ⟨l, cs⟩⟩⟩
    · rfl
    · rfl
    · rw [separateCapitals_cons, spaced, behind, startsBetween, List.head?_nil, Option.any_none,
        Bool.or_false, Bool.and_comm]
      rfl
    · exact absurd rfl (hcs c u l cs)

/-- **The two passes are one rule.** A text that is no identifier is refused; the normalized form of
an identifier is its lowercase, with an underscore before each position where a word starts and
nothing else changed. -/
theorem normalize_eq_separated (s : String) :
    normalize s = (check s).map fun _ => String.ofList (separated s.toList) := by
  rw [normalize, check]
  cases fault? s.toList with
  | some fault => rfl
  | none => simp [Except.map, snake, separateCapitals_separateTails, separated_eq, Text.lowerAscii]

example : separated "getHTTPResponse2XXCode".toList = "get_http_response2_xx_code".toList := by
  decide +kernel

end CommandForge.Identifier
