import Mathlib.Data.List.DropRight
import CommandForge.Proofs.Json.Leaf
import CommandForge.Proofs.Json.Members
/-!
# Objects of leaves read back

An object whose values are neither arrays nor objects nor doubles reads back from its text in
either layout: the value (`readChars?_objectText`) and the members as they are written
(`readWritten?_objectText`). The two layouts differ only in the white space between the tokens, so
the text is described once, for any such space (`Spacing`), and both layouts are instances of it.
-/

namespace CommandForge.Json

/-! ## Leaves -/

/-- Neither an array nor an object, and no double: a value that is printed alike in every layout
and reads back exactly. -/
def IsLeaf : Json → Prop
  | .null | .bool _ | .string _ => True
  | .number (.int n) => -2 ^ 63 ≤ n ∧ n < 2 ^ 64
  | .number (.real _) | .array _ | .object _ => False

theorem prettyChars_of_isLeaf {v : Json} (h : v.IsLeaf) (level : Nat) :
    prettyChars level v = compactChars v := by
  cases v with
  | bool b => cases b <;> simp [prettyChars, compactChars]
  | null | number _ | string _ => simp [prettyChars, compactChars]
  | array _ | object _ => exact h.elim

theorem skipSpace_append {gap rest : List Char} (hg : ∀ c ∈ gap, isSpace c = true) :
    skipSpace (gap ++ rest) = skipSpace rest :=
  List.dropWhile_append_of_pos hg

theorem skipSpace_cons {c : Char} (h : isSpace c = false) (rest : List Char) :
    skipSpace (c :: rest) = c :: rest := by
  simp [skipSpace, h]

theorem stringText_append (s : String) (rest : List Char) :
    stringText s ++ rest = '"' :: (s.toList.flatMap escape ++ '"' :: rest) := by
  simp [stringText]

theorem head_intDigits (n : Int) : ∃ c cs, Number.intDigits n = c :: cs ∧
    (c.isDigit = true ∨ c = '-') := by
  cases n with
  | ofNat n =>
    obtain ⟨c, cs, h⟩ := List.exists_cons_of_ne_nil (Number.digits_ne_nil n)
    exact ⟨c, cs, h, .inl (Number.isDigit_of_mem_digits (n := n) (by simp [h]))⟩
  | negSucc n => exact ⟨'-', Number.digits (n + 1), rfl, .inr rfl⟩

theorem readValue_of_head {c : Char} (hc : c.isDigit = true ∨ c = '-') (cs : List Char)
    (fuel depth : Nat) : readValue (fuel + 1) depth (c :: cs) =
      (readNumber (c :: cs)).map fun (n, rest) => (.number n, rest) := by
  have hs : isSpace c = false := by
    cases hsc : isSpace c with
    | false => rfl
    | true =>
      simp only [isSpace, Bool.or_eq_true, beq_iff_eq] at hsc
      rcases hsc with ((rfl | rfl) | rfl) | rfl <;> revert hc <;> decide
  have hnone : ∀ d ∈ ['n', 't', 'f', '"', '[', '{'], ¬ (d.isDigit = true ∨ d = '-') := by simp
  have hne : ∀ d ∈ ['n', 't', 'f', '"', '[', '{'], c ≠ d :=
    fun d hd he => hnone d hd (he ▸ hc)
  rw [readValue, skipSpace_cons hs]
  split
  case h_7 => rfl
  all_goals
    rename_i heq
    exact absurd (List.cons.inj heq).1 (hne _ (by decide))

theorem readValue_of_isLeaf {v : Json} (h : v.IsLeaf) {rest : List Char} (hr : EndsNumber rest)
    (fuel depth : Nat) : readValue (fuel + 1) depth (compactChars v ++ rest) = some (v, rest) := by
  cases v with
  | null => simp [compactChars, readValue, skipSpace_cons, isSpace]
  | bool b => cases b <;> simp [compactChars, readValue, skipSpace_cons, isSpace]
  | number n =>
    cases n with
    | int n =>
      obtain ⟨c, cs, hcs, hc⟩ := head_intDigits n
      rw [compactChars, numberText, hcs, List.cons_append, readValue_of_head hc,
        ← List.cons_append, ← hcs, readNumber_intDigits h.1 h.2 hr]
      rfl
    | real x => exact h.elim
  | string s =>
    rw [compactChars, stringText_append, readValue, skipSpace_cons (by decide)]
    simp [readChars_flatMap_escape]
  | array _ | object _ => exact h.elim

theorem readValue_append {gap : List Char} (hg : ∀ c ∈ gap, isSpace c = true) (cs : List Char)
    (fuel depth : Nat) :
    readValue (fuel + 1) depth (gap ++ cs) = readValue (fuel + 1) depth cs := by
  rw [readValue, readValue, skipSpace_append hg]

theorem readPairs_skipSpace (cs : List Char) (fuel depth : Nat) :
    readPairs fuel depth (skipSpace cs) = readPairs fuel depth cs := by
  cases fuel with
  | zero => rw [readPairs, readPairs]
  | succ fuel => rw [readPairs, readPairs, skipSpace, skipSpace, List.dropWhile_idempotent]

/-! ## Objects -/

/-- What a layout puts between the tokens of an object: white space only. -/
structure Spacing where
  /-- In front of each key. -/
  before : List Char
  /-- Between a colon and its value. -/
  gap : List Char
  /-- In front of the closing brace. -/
  after : List Char
  isSpace_before : ∀ c ∈ before, isSpace c = true
  isSpace_gap : ∀ c ∈ gap, isSpace c = true
  isSpace_after : ∀ c ∈ after, isSpace c = true

namespace Spacing

/-- One member, behind an opening brace or a comma. -/
def memberText (sp : Spacing) (m : String × Json) : List Char :=
  sp.before ++ stringText m.1 ++ ':' :: sp.gap ++ compactChars m.2

/-- Further members, and the closing brace. -/
def membersText (sp : Spacing) : List (String × Json) → List Char
  | [] => sp.after ++ ['}']
  | m :: ms => ',' :: sp.memberText m ++ sp.membersText ms

/-- An object. -/
def objectText (sp : Spacing) : List (String × Json) → List Char
  | [] => ['{', '}']
  | m :: ms => '{' :: sp.memberText m ++ sp.membersText ms

variable (sp : Spacing)

theorem endsNumber_membersText (ms : List (String × Json)) (rest : List Char) :
    EndsNumber (sp.membersText ms ++ rest) := by
  cases ms with
  | nil =>
    cases ha : sp.after with
    | nil => simp [membersText, ha, EndsNumber]
    | cons c cs =>
      have hc := sp.isSpace_after c (by simp [ha])
      simp only [isSpace, Bool.or_eq_true, beq_iff_eq] at hc
      rcases hc with ((rfl | rfl) | rfl) | rfl <;> simp [membersText, ha, EndsNumber]
  | cons m ms => simp [membersText, EndsNumber]

theorem memberText_append (m : String × Json) (tail : List Char) :
    sp.memberText m ++ tail = sp.before ++ '"' :: (m.1.toList.flatMap escape ++
      '"' :: ':' :: (sp.gap ++ (compactChars m.2 ++ tail))) := by
  simp [memberText, stringText]

theorem skipSpace_memberText (m : String × Json) (tail : List Char) :
    ∃ cs, skipSpace (sp.memberText m ++ tail) = '"' :: cs := by
  rw [memberText_append, skipSpace_append sp.isSpace_before, skipSpace_cons (by decide)]
  exact ⟨_, rfl⟩

theorem readValue_gap_append {v : Json} (hv : v.IsLeaf) {tail : List Char} (ht : EndsNumber tail)
    (fuel depth : Nat) :
    readValue (fuel + 1) depth (sp.gap ++ (compactChars v ++ tail)) = some (v, tail) := by
  rw [readValue_append sp.isSpace_gap, readValue_of_isLeaf hv ht]

/-- A member in front of a brace is the last one. -/
theorem readPairs_memberText_brace {m : String × Json} (hm : m.2.IsLeaf) {tail rest : List Char}
    (ht : EndsNumber tail) (h : skipSpace tail = '}' :: rest) (fuel depth : Nat) :
    readPairs (fuel + 2) depth (sp.memberText m ++ tail) = some ([m], rest) := by
  rw [memberText_append, readPairs, skipSpace_append sp.isSpace_before, skipSpace_cons (by decide)]
  simp only [readChars_flatMap_escape]
  rw [skipSpace_cons (by decide)]
  simp only [sp.readValue_gap_append hm ht, h, String.ofList_toList]

/-- Behind a member and a comma the members go on. -/
theorem readPairs_memberText_comma {m : String × Json} (hm : m.2.IsLeaf) {tail rest : List Char}
    (ht : EndsNumber tail) (h : skipSpace tail = ',' :: rest) (fuel depth : Nat) :
    readPairs (fuel + 2) depth (sp.memberText m ++ tail) =
      (readPairs (fuel + 1) depth rest).map fun (pairs, rest) => (m :: pairs, rest) := by
  rw [memberText_append, readPairs, skipSpace_append sp.isSpace_before, skipSpace_cons (by decide)]
  simp only [readChars_flatMap_escape]
  rw [skipSpace_cons (by decide)]
  simp only [sp.readValue_gap_append hm ht, h, String.ofList_toList]

/-- Printed members read back. Every member takes one unit of fuel, and the last value another. -/
theorem readPairs_membersText {m : String × Json} {ms : List (String × Json)} (hm : m.2.IsLeaf)
    (hms : ∀ m ∈ ms, m.2.IsLeaf) (rest : List Char) (fuel depth : Nat) :
    readPairs (fuel + ms.length + 2) depth (sp.memberText m ++ (sp.membersText ms ++ rest)) =
      some (m :: ms, rest) := by
  induction ms generalizing m with
  | nil =>
    refine sp.readPairs_memberText_brace hm (sp.endsNumber_membersText [] rest) ?_ fuel depth
    rw [membersText, List.append_assoc, skipSpace_append sp.isSpace_after, List.singleton_append,
      skipSpace_cons (by decide)]
  | cons n ns ih =>
    have hn : n.2.IsLeaf := hms n List.mem_cons_self
    have hns : ∀ m ∈ ns, m.2.IsLeaf := fun m hm => hms m (List.mem_cons_of_mem n hm)
    have hcomma : skipSpace (sp.membersText (n :: ns) ++ rest) =
        ',' :: (sp.memberText n ++ (sp.membersText ns ++ rest)) := by
      rw [membersText, List.cons_append, List.cons_append, List.append_assoc,
        skipSpace_cons (by decide)]
    rw [List.length_cons, sp.readPairs_memberText_comma hm
      (sp.endsNumber_membersText (n :: ns) rest) hcomma,
      show fuel + (ns.length + 1) + 1 = fuel + ns.length + 2 by omega]
    simp only [ih hn hns, Option.map_some]

/-- A printed object reads back, behind its opening brace. -/
theorem readMembers_objectText {ms : List (String × Json)} (hms : ∀ m ∈ ms, m.2.IsLeaf)
    (fuel depth : Nat) :
    ∃ cs, sp.objectText ms = '{' :: cs ∧
      readMembers (fuel + ms.length + 2) (depth + 1) cs = some (ms, []) := by
  cases ms with
  | nil =>
    refine ⟨['}'], rfl, ?_⟩
    rw [readMembers, skipSpace_cons (by decide)]
    rfl
  | cons m ms =>
    have hm : m.2.IsLeaf := hms m List.mem_cons_self
    have hms' : ∀ n ∈ ms, n.2.IsLeaf := fun n hn => hms n (List.mem_cons_of_mem m hn)
    refine ⟨sp.memberText m ++ sp.membersText ms, rfl, ?_⟩
    have hp := sp.readPairs_membersText hm hms' [] fuel depth
    rw [List.append_nil] at hp
    rw [readMembers]
    split
    · -- The reader looks for the brace of an empty object first; a member starts otherwise.
      rename_i heq
      obtain ⟨cs, hcs⟩ := sp.skipSpace_memberText m (sp.membersText ms)
      rw [hcs] at heq
      exact absurd (List.cons.inj heq).1 (by decide)
    · rw [readPairs_skipSpace]
      exact hp

theorem length_lt_membersText (ms : List (String × Json)) :
    ms.length < (sp.membersText ms).length := by
  induction ms with
  | nil => simp [membersText]
  | cons m ms ih =>
    simp only [membersText, List.length_cons, List.length_append]
    omega

theorem length_lt_objectText (ms : List (String × Json)) :
    ms.length < (sp.objectText ms).length := by
  cases ms with
  | nil => simp [objectText]
  | cons m ms =>
    have := sp.length_lt_membersText ms
    simp only [objectText, List.length_cons, List.length_append]
    omega

/-- The text of an object is that object. -/
theorem readChars?_objectText {ms : List (String × Json)} (hms : ∀ m ∈ ms, m.2.IsLeaf) :
    readChars? (sp.objectText ms) = some (.object (ofWritten ms)) := by
  have hlen := sp.length_lt_objectText ms
  obtain ⟨cs, hcs, hread⟩ := sp.readMembers_objectText hms
    (2 * (sp.objectText ms).length - 1 - ms.length) 126
  rw [show 2 * (sp.objectText ms).length - 1 - ms.length + ms.length + 2 =
    2 * (sp.objectText ms).length + 1 by omega] at hread
  have hvalue : readValue (2 * (sp.objectText ms).length + 1 + 1) maxDepth ('{' :: cs) =
      some (.object (ofWritten ms), []) := by
    rw [readValue, skipSpace_cons (by decide)]
    simp only [maxDepth, hread, Option.map_some]
  rw [← hcs] at hvalue
  simp [readChars?, fuelFor, hvalue, skipSpace]

/-- And its members as they are written are the object's members. -/
theorem readWritten?_objectText {ms : List (String × Json)} (hms : ∀ m ∈ ms, m.2.IsLeaf) :
    readWritten? (String.ofList (sp.objectText ms)) = some ms := by
  have hlen := sp.length_lt_objectText ms
  obtain ⟨cs, hcs, hread⟩ := sp.readMembers_objectText hms
    (2 * (sp.objectText ms).length - 2 - ms.length) 126
  rw [hcs, List.length_cons] at hlen hread
  rw [show 2 * (cs.length + 1) - 2 - ms.length + ms.length + 2 = fuelFor cs by
    simp only [fuelFor]; omega] at hread
  rw [readWritten?, String.toList_ofList, hcs, skipSpace_cons (by decide)]
  simp [maxDepth, hread, skipSpace]

end Spacing

/-! ## The two layouts -/

/-- No space at all. -/
def Spacing.none : Spacing := ⟨[], [], [], by simp, by simp, by simp⟩

theorem isSpace_newline (level : Nat) : ∀ c ∈ newline level, isSpace c = true := by
  intro c hc
  rcases List.mem_cons.1 hc with rfl | hc
  · decide
  · rw [List.eq_of_mem_replicate hc]
    decide

/-- One member a line. -/
def Spacing.lines : Spacing :=
  ⟨newline 1, [' '], newline 0, isSpace_newline 1, by simp [isSpace], isSpace_newline 0⟩

theorem compactMembers_eq (ms : List (String × Json)) :
    compactMembers ms = Spacing.none.membersText ms := by
  induction ms with
  | nil => rfl
  | cons m ms ih => simp [compactMembers, Spacing.membersText, Spacing.memberText, Spacing.none, ih]

theorem compactChars_object (ms : List (String × Json)) :
    compactChars (.object ms) = Spacing.none.objectText ms := by
  cases ms with
  | nil => simp [compactChars, Spacing.objectText]
  | cons m ms =>
    simp [compactChars, compactMembers_eq, Spacing.objectText, Spacing.memberText, Spacing.none]

theorem prettyMembers_eq {ms : List (String × Json)} (hms : ∀ m ∈ ms, m.2.IsLeaf) :
    prettyMembers 0 ms = Spacing.lines.membersText ms := by
  induction ms with
  | nil => simp [prettyMembers, Spacing.membersText, Spacing.lines]
  | cons m ms ih =>
    have hm := prettyChars_of_isLeaf (hms m List.mem_cons_self) (0 + 1)
    rw [prettyMembers, ih fun n hn => hms n (List.mem_cons_of_mem m hn), hm]
    simp [Spacing.membersText, Spacing.memberText, Spacing.lines]

theorem prettyChars_object {ms : List (String × Json)} (hms : ∀ m ∈ ms, m.2.IsLeaf) :
    prettyChars 0 (.object ms) = Spacing.lines.objectText ms := by
  cases ms with
  | nil => simp [prettyChars, Spacing.objectText]
  | cons m ms =>
    have hm := prettyChars_of_isLeaf (hms m List.mem_cons_self) (0 + 1)
    rw [prettyChars, prettyMembers_eq fun n hn => hms n (List.mem_cons_of_mem m hn), hm]
    simp [Spacing.objectText, Spacing.memberText, Spacing.lines]

end CommandForge.Json
