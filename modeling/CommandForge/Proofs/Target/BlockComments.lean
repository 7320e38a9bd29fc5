import Mathlib.Data.List.Chain
import Mathlib.Data.List.TakeWhile
import CommandForge.Config
import CommandForge.Proofs.Target.Accepted
import CommandForge.Proofs.Target.DocLines
/-!
# Documentation in block comments

Three languages write documentation as block comments, which end at the first star that is followed
by a slash. Neither an escaped line holds those two nor can they meet at the edge of one, so the
first end of a comment is the line that the target itself writes to close it
(`BlockComments.Holds.closed`), whatever the documentation says. In Java no comment holds a
backslash either, which could spell them as an escape.
-/

namespace CommandForge

/-! ## Ends of comments -/

/-- No block comment ends within the text. -/
def Unclosed (cs : List Char) : Prop := ¬['*', '/'] <:+: cs

theorem unclosed_iff_isChain {cs : List Char} :
    Unclosed cs ↔ cs.IsChain fun a b => ¬(a = '*' ∧ b = '/') := by
  rw [List.isChain_iff_forall_rel_of_append_cons_cons]
  constructor
  · rintro h a b as bs rfl ⟨rfl, rfl⟩
    exact h ⟨as, bs, by simp⟩
  · rintro h ⟨as, bs, rfl⟩
    exact h (show as ++ ['*', '/'] ++ bs = as ++ '*' :: '/' :: bs by simp) ⟨rfl, rfl⟩

/-- Where two texts meet, a comment ends only when one ends in the star and the other starts with
the slash. -/
theorem unclosed_append {as bs : List Char} :
    Unclosed (as ++ bs) ↔
      Unclosed as ∧ Unclosed bs ∧ ¬(as.getLast? = some '*' ∧ bs.head? = some '/') := by
  rw [unclosed_iff_isChain, unclosed_iff_isChain, unclosed_iff_isChain, List.isChain_append]
  refine and_congr_right fun _ => and_congr_right fun _ => ?_
  constructor
  · rintro h ⟨ha, hb⟩
    exact h '*' ha '/' hb ⟨rfl, rfl⟩
  · rintro h a ha b hb ⟨rfl, rfl⟩
    exact h ⟨ha, hb⟩

theorem unclosed_of_slash_notMem {cs : List Char} (h : '/' ∉ cs) : Unclosed cs :=
  fun hin => h (hin.subset (by simp))

theorem unclosed_singleton (c : Char) : Unclosed [c] :=
  unclosed_iff_isChain.2 (List.isChain_singleton c)

theorem unclosed_cons {c : Char} {cs : List Char} :
    Unclosed (c :: cs) ↔ Unclosed cs ∧ ¬(c = '*' ∧ cs.head? = some '/') := by
  have h : Unclosed ([c] ++ cs) ↔ _ := unclosed_append
  rw [List.singleton_append] at h
  rw [h]
  simp [unclosed_singleton]

/-- The first end of a comment in `text` stands behind `front`. -/
def EndsFirst (front text : List Char) : Prop :=
  front ++ ['*', '/'] <+: text ∧ Unclosed (front ++ ['*'])

namespace Text

/-! ## Replacements -/

variable {p : Char} {pat with_ cs : List Char}

/-- A replaced text starts as the text does or with what is put in. -/
theorem head?_replaceAll (hne : with_ ≠ []) {c : Char}
    (h : (replaceAll p pat with_ cs).head? = some c) :
    with_.head? = some c ∨ cs.head? = some c := by
  cases cs with
  | nil => simp [replaceAll] at h
  | cons d cs =>
    rw [replaceAll] at h
    split at h
    · rw [List.head?_append_of_ne_nil _ hne] at h
      exact .inl h
    · exact .inr h

/-- A single character that is replaced is gone, when it is not put in again. -/
theorem self_notMem_replaceAll (h : p ∉ with_) : p ∉ replaceAll p [] with_ cs := by
  fun_induction replaceAll p [] with_ cs with
  | case1 => simp
  | case2 c cs rest hrest ih =>
    rw [List.mem_append, not_or]
    exact ⟨h, ih⟩
  | case3 c cs hnone ih =>
    have hpc : p ≠ c := by
      rintro rfl
      simp [dropPattern?] at hnone
    rw [List.mem_cons, not_or]
    exact ⟨hpc, ih⟩

/-- A comment does not end in a text whose ends of comments are replaced, unless it ends in what is
put in or at the edges of that. -/
theorem unclosed_replaceAll (hne : with_ ≠ []) (hw : Unclosed with_)
    (hhead : with_.head? ≠ some '/') (hlast : with_.getLast? ≠ some '*') :
    Unclosed (replaceAll '*' ['/'] with_ cs) := by
  fun_induction replaceAll '*' ['/'] with_ cs with
  | case1 => exact unclosed_of_slash_notMem (by simp)
  | case2 c cs rest hrest ih => exact unclosed_append.2 ⟨hw, ih, fun h => hlast h.1⟩
  | case3 c cs hnone ih =>
    refine unclosed_cons.2 ⟨ih, ?_⟩
    rintro ⟨rfl, h⟩
    -- A star that is kept is not followed by a slash: the two would have been replaced.
    obtain ⟨rest, rfl⟩ := List.head?_eq_some_iff.1 ((head?_replaceAll hne h).resolve_left hhead)
    simp [dropPattern?] at hnone

end Text

namespace Target

/-! ## Comments -/

/-- The line that opens a block comment. -/
def opening (indent : Nat) : String := lineAt indent ['/', '*', '*']

/-- The line that closes a block comment. -/
def closing (indent : Nat) : String := lineAt indent [' ', '*', '/']

/-- How a language writes documentation in block comments. -/
structure BlockComments where
  /-- What is written behind the stars of the lines for a documentation. -/
  texts : List (List Char) → List (List Char)
  /-- The indentation of the comment for a command. -/
  commandIndent : Nat
  /-- The indentation of the comments for fields, if there are any. -/
  fieldIndent? : Option Nat
  /-- Characters that no comment holds. -/
  absent : List Char
  unclosed_texts : ∀ lines, ∀ text ∈ texts lines, Unclosed ('*' :: text)
  absent_texts : ∀ lines, ∀ text ∈ texts lines, ∀ c ∈ absent, c ∉ text
  absent_signs : ∀ c ∈ absent, c ∉ [' ', '*', '/'] := by simp

namespace BlockComments

variable (k : BlockComments)

/-- The lines of a comment for a documentation, between those that open and close it. -/
def body (p : Nat × Option String) : List String :=
  (k.texts (docLines p.2)).map fun text => lineAt p.1 (' ' :: '*' :: text)

/-- The comment for a documentation. -/
def block (p : Nat × Option String) : List String :=
  if docLines p.2 = [] then [] else [opening p.1] ++ k.body p ++ [closing p.1]

/-- The documentations of a command that are written as block comments, with their indentations. -/
def places (m : CommandModel) : List (Nat × Option String) :=
  (k.commandIndent, m.docs) ::
    match k.fieldIndent? with
    | none => []
    | some indent => m.fields.map fun f => (indent, f.docs)

/-- The lines hold the comments for the documentations in order, and no other line opens one. -/
inductive Holds : List (Nat × Option String) → List String → Prop where
  | nil : Holds [] []
  | code {ps lines} (line : String) (hline : ∀ indent, line ≠ opening indent) (h : Holds ps lines) :
      Holds ps (line :: lines)
  | block {ps lines} (p : Nat × Option String) (h : Holds ps lines) :
      Holds (p :: ps) (k.block p ++ lines)

/-- Every line that opens a comment stands above the body for one of the documentations and the line
that closes it in the same column. The first end of a comment is in that line, and none of these
lines holds a character that is said to be absent. -/
def Closed (ps : List (Nat × Option String)) (lines : List String) : Prop :=
  ∀ before indent after, lines = before ++ opening indent :: after →
    ∃ p ∈ ps, p.1 = indent ∧ ∃ rest, after = k.body p ++ closing indent :: rest ∧
      EndsFirst ((sourceText (k.body p)).toList ++ List.replicate (indent + 1) ' ')
        (sourceText after).toList ∧
      ∀ line ∈ opening indent :: k.body p ++ [closing indent], ∀ c ∈ k.absent, c ∉ line.toList

variable {k}

/-! ## One comment -/

/-- A comment that ends in none of the lines does not end between them. -/
theorem unclosed_sourceText {lines : List String} (h : ∀ line ∈ lines, Unclosed line.toList) :
    Unclosed (sourceText lines).toList := by
  induction lines with
  | nil => exact unclosed_of_slash_notMem (by simp [sourceText])
  | cons line lines ih =>
    rw [toList_sourceText_cons, unclosed_append, unclosed_cons]
    have hrest := ih fun l hl => h l (List.mem_cons_of_mem line hl)
    exact ⟨h line List.mem_cons_self, ⟨hrest, by simp⟩, by simp⟩

theorem unclosed_body (p : Nat × Option String) : ∀ line ∈ k.body p, Unclosed line.toList := by
  intro line hl
  obtain ⟨text, ht, rfl⟩ := List.mem_map.1 hl
  rw [toList_lineAt, unclosed_append, unclosed_cons]
  have hblanks : Unclosed (List.replicate p.1 ' ') :=
    unclosed_of_slash_notMem (by simp [List.mem_replicate])
  exact ⟨hblanks, ⟨k.unclosed_texts _ text ht, by simp⟩, by simp⟩

/-- The first end of a comment behind the line that opens it is in the line that closes it. -/
theorem endsFirst_body (p : Nat × Option String) (rest : List String) :
    EndsFirst ((sourceText (k.body p)).toList ++ List.replicate (p.1 + 1) ' ')
      (sourceText (k.body p ++ closing p.1 :: rest)).toList := by
  constructor
  · refine ⟨'\n' :: (sourceText rest).toList, ?_⟩
    rw [toList_sourceText_append, toList_sourceText_cons, closing, toList_lineAt,
      List.replicate_succ']
    simp
  · rw [List.append_assoc, unclosed_append, List.replicate_succ, List.cons_append]
    refine ⟨unclosed_sourceText (unclosed_body p), unclosed_of_slash_notMem ?_, by simp⟩
    simp [List.mem_replicate]

theorem absent_notMem_lineAt {indent : Nat} {cs : List Char}
    (h : ∀ c ∈ k.absent, c ∉ cs) : ∀ c ∈ k.absent, c ∉ (lineAt indent cs).toList := by
  intro c hc hmem
  rw [toList_lineAt, List.mem_append] at hmem
  rcases hmem with hmem | hmem
  · obtain rfl := List.eq_of_mem_replicate hmem
    exact k.absent_signs ' ' hc (by simp)
  · exact h c hc hmem

theorem absent_notMem_block (p : Nat × Option String) :
    ∀ line ∈ opening p.1 :: k.body p ++ [closing p.1], ∀ c ∈ k.absent, c ∉ line.toList := by
  have hsigns : ∀ cs : List Char, (∀ c ∈ cs, c ∈ [' ', '*', '/']) → ∀ c ∈ k.absent, c ∉ cs :=
    fun cs hcs c hc hmem => k.absent_signs c hc (hcs c hmem)
  intro line hl
  simp only [List.mem_append, List.mem_cons, List.not_mem_nil, or_false] at hl
  rcases hl with (rfl | hl) | rfl
  · exact absent_notMem_lineAt (hsigns _ (by simp))
  · obtain ⟨text, ht, rfl⟩ := List.mem_map.1 hl
    refine absent_notMem_lineAt fun c hc hmem => ?_
    rcases List.mem_cons.1 hmem with rfl | hmem
    · exact k.absent_signs ' ' hc (by simp)
    · rcases List.mem_cons.1 hmem with rfl | hmem
      · exact k.absent_signs '*' hc (by simp)
      · exact k.absent_texts _ text ht c hc hmem
  · exact absent_notMem_lineAt (hsigns _ (by simp))

/-! ## Lines that open no comment -/

/-- The row opens a comment. -/
def opensComment (row : List Char) : Bool := row.dropWhile (· == ' ') == ['/', '*', '*']

theorem opensComment_opening (indent : Nat) : opensComment (opening indent).toList = true := by
  rw [opening, opensComment, dropWhile_lineAt indent (by decide)]
  rfl

theorem ne_opening {line : String} (h : opensComment line.toList = false) (indent : Nat) :
    line ≠ opening indent := by
  rintro rfl
  rw [opensComment_opening] at h
  exact absurd h (by decide)

/-- A line opens no comment when it holds a character that no line does that opens one. -/
theorem opensComment_of_mem {row : List Char} {c : Char} (hc : c ∈ row)
    (hsign : c ∉ [' ', '*', '/']) : opensComment row = false := by
  simp only [List.mem_cons, List.not_mem_nil, or_false, not_or] at hsign
  rw [opensComment, beq_eq_false_iff_ne]
  intro hrow
  rw [← List.takeWhile_append_dropWhile (p := (· == ' ')) (l := row), hrow, List.mem_append] at hc
  rcases hc with hc | hc
  · exact hsign.1 (by simpa using List.mem_takeWhile_imp hc)
  · simp [hsign] at hc

theorem opening_inj {indent depth : Nat} (h : opening indent = opening depth) : indent = depth := by
  have hlen := congrArg String.length h
  simpa [opening, lineAt] using hlen

/-- No line of a comment behind the one that opens it opens another. -/
theorem opensComment_of_mem_body {p : Nat × Option String} {line : String}
    (hl : line ∈ k.body p ++ [closing p.1]) : opensComment line.toList = false := by
  have hstar : ∀ text, opensComment (lineAt p.1 (' ' :: '*' :: text)).toList = false := by
    intro text
    have hblanks : lineAt p.1 (' ' :: '*' :: text) = lineAt (p.1 + 1) ('*' :: text) := by
      simp [lineAt, List.replicate_succ']
    rw [opensComment, hblanks, dropWhile_lineAt _ (by decide)]
    rfl
  rcases List.mem_append.1 hl with hl | hl
  · obtain ⟨text, -, rfl⟩ := List.mem_map.1 hl
    exact hstar text
  · obtain rfl := List.mem_singleton.1 hl
    exact hstar ['/']

/-! ## All comments -/

theorem Closed.cons {ps : List (Nat × Option String)} {lines : List String} (h : k.Closed ps lines)
    (p : Nat × Option String) : k.Closed (p :: ps) lines := by
  intro before indent after he
  obtain ⟨q, hq, hrest⟩ := h before indent after he
  exact ⟨q, List.mem_cons_of_mem p hq, hrest⟩

/-- A comment in front of lines is closed, and so are those that are closed behind it. -/
theorem Closed.block {ps : List (Nat × Option String)} {lines : List String}
    (h : k.Closed ps lines) (p : Nat × Option String) :
    k.Closed (p :: ps) (k.block p ++ lines) := by
  intro before indent after he
  unfold BlockComments.block at he
  split at he
  · exact h.cons p before indent after he
  · simp only [List.cons_append, List.nil_append, List.append_assoc] at he
    cases before with
    | nil =>
      obtain ⟨hopen, rfl⟩ := List.cons.inj he
      obtain rfl := opening_inj hopen
      exact ⟨p, List.mem_cons_self, rfl, lines, rfl, endsFirst_body p lines, absent_notMem_block p⟩
    | cons b before =>
      have htail : k.body p ++ [closing p.1] ++ lines = before ++ opening indent :: after := by
        simpa using (List.cons.inj he).2
      -- The line stands behind the comment, since none of the comment's other lines is like it.
      rcases List.append_eq_append_iff.1 htail with ⟨between, -, hlines⟩ | ⟨between, hbody, hrest⟩
      · exact h.cons p between indent after hlines
      · cases between with
        | nil => exact h.cons p [] indent after hrest.symm
        | cons c between =>
          obtain rfl := (List.cons.inj hrest).1
          have hmem : opening indent ∈ k.body p ++ [closing p.1] := by simp [hbody]
          exact absurd rfl (ne_opening (opensComment_of_mem_body hmem) indent)

/-- Lines that hold comments hold them closed. -/
theorem Holds.closed {ps : List (Nat × Option String)} {lines : List String}
    (h : k.Holds ps lines) : k.Closed ps lines := by
  induction h with
  | nil =>
    intro before indent after he
    simp at he
  | code line hline _ ih =>
    intro before indent after he
    cases before with
    | nil => exact absurd (List.cons.inj he).1 (hline indent)
    | cons b before => exact ih before indent after (List.cons.inj he).2
  | block p _ ih => exact ih.block p

/-- None of the lines opens a comment. -/
def Code (lines : List String) : Prop := ∀ line ∈ lines, ∀ indent, line ≠ opening indent

section

variable {ps qs : List (Nat × Option String)} {lines : List String}

theorem holds_code (h : Code lines) : k.Holds [] lines := by
  induction lines with
  | nil => exact .nil
  | cons line lines ih =>
    exact .code line (h line List.mem_cons_self) (ih fun l hl => h l (List.mem_cons_of_mem line hl))

theorem Holds.append (h : k.Holds ps lines) {more : List String} (h' : k.Holds qs more) :
    k.Holds (ps ++ qs) (lines ++ more) := by
  induction h with
  | nil => exact h'
  | code line hline _ ih => exact .code line hline ih
  | block p _ ih =>
    rw [List.append_assoc]
    exact .block p ih

theorem Holds.append_code (h : k.Holds ps lines) {more : List String} (hc : Code more) :
    k.Holds ps (lines ++ more) := by
  have hall := h.append (holds_code hc)
  rwa [List.append_nil] at hall

theorem Holds.code_append (h : k.Holds ps lines) {more : List String} (hc : Code more) :
    k.Holds ps (more ++ lines) :=
  (holds_code hc).append h

theorem holds_block (p : Nat × Option String) : k.Holds [p] (k.block p) := by
  have h := Holds.block p (Holds.nil (k := k))
  rwa [List.append_nil] at h

theorem holds_flatMap {xs : List Member} {place : Member → Nat × Option String}
    {f : Member → List String} (h : ∀ x ∈ xs, k.Holds [place x] (f x)) :
    k.Holds (xs.map place) (xs.flatMap f) := by
  induction xs with
  | nil => exact .nil
  | cons x xs ih =>
    exact (h x List.mem_cons_self).append (ih fun y hy => h y (List.mem_cons_of_mem x hy))

end

/-! ## Code -/

section

variable {s t : String} {cs : List Char}

theorem code_cons {line : String} {lines : List String} :
    Code (line :: lines) ↔ (∀ indent, line ≠ opening indent) ∧ Code lines :=
  List.forall_mem_cons

theorem code_nil : Code [] := List.forall_mem_nil _

theorem code_append {as bs : List String} : Code (as ++ bs) ↔ Code as ∧ Code bs :=
  List.forall_mem_append

theorem code_map {α : Type} {xs : List α} {f : α → String}
    (h : ∀ x, ∀ indent, f x ≠ opening indent) : Code (xs.map f) := by
  intro line hl
  obtain ⟨x, -, rfl⟩ := List.mem_map.1 hl
  exact h x

theorem code_flatMap {α : Type} {xs : List α} {f : α → List String} (h : ∀ x, Code (f x)) :
    Code (xs.flatMap f) := by
  intro line hl
  obtain ⟨x, -, hx⟩ := List.mem_flatMap.1 hl
  exact h x line hx

theorem ne_opening_lit (h : s = String.ofList cs) (hc : opensComment cs = false) :
    ∀ indent, s ≠ opening indent :=
  ne_opening (test_lit h hc)

/-- The start of a line decides that it opens no comment, whatever follows. -/
theorem ne_opening_append (h : s = String.ofList cs)
    (hc : ∀ rest, opensComment (cs ++ rest) = false) : ∀ indent, s ++ t ≠ opening indent :=
  ne_opening (test_append h hc)

/-- The end of a line decides that it opens no comment when it ends in another character than
that of a comment, whatever stands before. -/
theorem ne_opening_append_lit (h : t = String.ofList cs)
    (hc : (cs.any fun c => !([' ', '*', '/'].contains c)) = true) :
    ∀ indent, s ++ t ≠ opening indent := by
  obtain ⟨c, hmem, hsign⟩ := List.any_eq_true.1 hc
  refine ne_opening (opensComment_of_mem (c := c) ?_ (by simpa using hsign))
  rw [String.toList_append, toList_lit h]
  exact List.mem_append_right _ hmem

end

end BlockComments

open BlockComments (Holds Code code_cons code_nil code_append code_map code_flatMap holds_block
  holds_flatMap ne_opening_lit ne_opening_append ne_opening_append_lit)

/-! ## Escaped lines -/

theorem unclosed_blockCommentText (line : List Char) : Unclosed (blockCommentText line) :=
  Text.unclosed_replaceAll (by decide) (unclosed_iff_isChain.2 (by simp)) (by decide) (by decide)

theorem unclosed_spaced {text : List Char} (h : Unclosed text) : Unclosed ('*' :: spaced text) := by
  unfold spaced
  split
  · exact unclosed_singleton '*'
  · exact unclosed_cons.2 ⟨unclosed_cons.2 ⟨h, by simp⟩, by simp⟩

/-! ## C++ -/

namespace Cpp

/-- What a brief and the lines behind it hold. -/
def texts : List (List Char) → List (List Char)
  | [] => []
  | first :: rest =>
    ([' ', '@', 'b', 'r', 'i', 'e', 'f', ' '] ++ blockCommentText first) ::
      rest.map fun line => spaced (blockCommentText line)

/-- The comments of C++ classes and data members. -/
def blockComments : BlockComments where
  texts := texts
  commandIndent := 4
  fieldIndent? := some 8
  absent := []
  unclosed_texts lines text ht := by
    cases lines with
    | nil => simp [texts] at ht
    | cons first rest =>
      rcases List.mem_cons.1 ht with rfl | ht
      · have hbrief : Unclosed (['*', ' ', '@', 'b', 'r', 'i', 'e', 'f', ' '] ++
            blockCommentText first) :=
          unclosed_append.2
            ⟨unclosed_of_slash_notMem (by decide), unclosed_blockCommentText first, by simp⟩
        exact hbrief
      · obtain ⟨line, -, rfl⟩ := List.mem_map.1 ht
        exact unclosed_spaced (unclosed_blockCommentText line)
  absent_texts := by simp

theorem brief_eq (docs : Option String) {s : String} {cs : List Char} {indent : Nat}
    (hs : s = String.ofList cs) (hcs : cs = List.replicate indent ' ') :
    brief s docs = blockComments.block (indent, docs) := by
  have hopen : s ++ "/**" = opening indent := append_eq_lineAt hs hcs rfl
  have hclose : s ++ " */" = closing indent := append_eq_lineAt hs hcs rfl
  have hbrief : s ++ " * @brief " =
      lineAt indent [' ', '*', ' ', '@', 'b', 'r', 'i', 'e', 'f', ' '] :=
    append_eq_lineAt hs hcs rfl
  have hmarked : ∀ text, marked (s ++ " *") text = lineAt indent ([' ', '*'] ++ spaced text) :=
    marked_eq_lineAt hs hcs rfl
  unfold brief BlockComments.block BlockComments.body
  cases hdocs : docLines docs with
  | nil => rfl
  | cons first rest =>
    have hne : first :: rest ≠ [] := List.cons_ne_nil first rest
    simp only [hopen, hclose, hbrief, lineAt_append, hmarked, if_neg hne, texts, List.map_cons,
      List.map_map, blockComments]
    rfl

/-- The comment of a data member stands above it. -/
theorem holds_dataMember (x : Member) :
    blockComments.Holds [(8, x.field.docs)] (dataMember x) := by
  have hbrief : brief "        " x.field.docs = blockComments.block (8, x.field.docs) :=
    brief_eq _ rfl rfl
  rw [dataMember, hbrief]
  exact (holds_block _).append_code (code_cons.2 ⟨ne_opening_append_lit rfl rfl, code_nil⟩)

theorem code_writeBody (xs : List Member) : Code (writeBody xs) := by
  unfold writeBody
  split
  · exact code_cons.2 ⟨ne_opening_lit rfl rfl, code_nil⟩
  · refine code_append.2 ⟨code_append.2 ⟨?_, ?_⟩, ?_⟩
    · exact code_cons.2 ⟨ne_opening_lit rfl rfl, code_nil⟩
    · exact code_map fun x => ne_opening_append_lit rfl rfl
    · exact code_cons.2 ⟨ne_opening_lit rfl rfl, code_nil⟩

theorem code_readBody (name : String) (xs : List Member) : Code (readBody name xs) := by
  unfold readBody
  split
  · simp only [code_cons]
    exact ⟨ne_opening_lit rfl rfl, ne_opening_append_lit rfl rfl, code_nil⟩
  · simp only [code_append, code_cons]
    refine ⟨⟨⟨?_, ?_, code_nil⟩, code_map fun x => ?_⟩, ?_, code_nil⟩
    · exact ne_opening_lit rfl rfl
    · exact ne_opening_append_lit rfl rfl
    · exact ne_opening_append_lit rfl rfl
    · exact ne_opening_lit rfl rfl

theorem holds_render (ns : String) {m : CommandModel} {xs : List Member}
    (hxs : xs.map (·.field) = m.fields) :
    blockComments.Holds (blockComments.places m) (render ns m xs) := by
  have hplaces : blockComments.places m =
      [(4, m.docs)] ++ xs.map fun x => (8, x.field.docs) := by
    rw [BlockComments.places, ← hxs]
    simp [blockComments, Function.comp_def]
  have hbrief : brief "    " m.docs = blockComments.block (4, m.docs) := brief_eq _ rfl rfl
  rw [hplaces, render, hbrief]
  refine ((((((((Holds.code_append (holds_block _) ?_).append_code ?_).append_code ?_).append
    (holds_flatMap fun x _ => holds_dataMember x)).append_code ?_).append_code
    (code_writeBody xs)).append_code ?_).append_code (code_readBody m.typeName xs)).append_code ?_
  · simp only [code_cons]
    refine ⟨ne_opening_append rfl fun _ => rfl, ?_, ?_, ?_, ?_, ?_, ?_, ?_, ?_,
      ne_opening_append rfl fun _ => rfl, ?_, code_nil⟩ <;> exact ne_opening_lit rfl rfl
  · simp only [code_cons]
    refine ⟨?_, ?_, ?_, ?_, ?_, ?_, code_nil⟩
    · exact ne_opening_append_lit rfl rfl
    · exact ne_opening_lit rfl rfl
    · exact ne_opening_lit rfl rfl
    · exact ne_opening_append_lit rfl rfl
    · exact ne_opening_lit rfl rfl
    · exact ne_opening_append_lit rfl rfl
  · split
    · exact code_nil
    · exact code_cons.2 ⟨ne_opening_lit rfl rfl, code_nil⟩
  · simp only [code_cons]
    refine ⟨?_, ?_, ?_, code_nil⟩ <;> exact ne_opening_lit rfl rfl
  · simp only [code_cons]
    refine ⟨ne_opening_lit rfl rfl, ne_opening_lit rfl rfl, ne_opening_append_lit rfl rfl,
      ne_opening_lit rfl rfl, code_nil⟩
  · simp only [code_cons]
    refine ⟨?_, ?_, ?_, code_nil⟩ <;> exact ne_opening_lit rfl rfl

end Cpp

/-! ## Java -/

namespace Java

theorem unclosed_javadocText (line : List Char) : Unclosed (javadocText line) := by
  have hescape : "*&#47;".toList = ['*', '&', '#', '4', '7', ';'] := toList_lit rfl
  rw [javadocText, hescape]
  exact Text.unclosed_replaceAll (by decide) (unclosed_iff_isChain.2 (by simp)) (by decide)
    (by decide)

/-- No backslash is left of a documentation line. -/
theorem backslash_notMem_javadocText (line : List Char) : '\\' ∉ javadocText line :=
  Text.notMem_replaceAll (by decide) (Text.self_notMem_replaceAll (by decide))

/-- The comments of Java classes and fields. -/
def blockComments : BlockComments where
  texts lines := lines.map fun line => spaced (javadocText line)
  commandIndent := 0
  fieldIndent? := some 4
  absent := ['\\']
  unclosed_texts lines text ht := by
    obtain ⟨line, -, rfl⟩ := List.mem_map.1 ht
    exact unclosed_spaced (unclosed_javadocText line)
  absent_texts lines text ht c hc := by
    obtain ⟨line, -, rfl⟩ := List.mem_map.1 ht
    obtain rfl := List.mem_singleton.1 hc
    unfold spaced
    split
    · simp
    · simp [backslash_notMem_javadocText line]

theorem javadoc_eq (docs : Option String) {s : String} {cs : List Char} {indent : Nat}
    (hs : s = String.ofList cs) (hcs : cs = List.replicate indent ' ') :
    javadoc s docs = blockComments.block (indent, docs) := by
  have hopen : s ++ "/**" = opening indent := append_eq_lineAt hs hcs rfl
  have hclose : s ++ " */" = closing indent := append_eq_lineAt hs hcs rfl
  have hmarked : ∀ text, marked (s ++ " *") text = lineAt indent ([' ', '*'] ++ spaced text) :=
    marked_eq_lineAt hs hcs rfl
  unfold javadoc BlockComments.block BlockComments.body
  cases hdocs : docLines docs with
  | nil => rfl
  | cons first rest =>
    have hne : first :: rest ≠ [] := List.cons_ne_nil first rest
    simp only [hopen, hclose, hmarked, if_neg hne, List.map_map, blockComments]
    rfl

/-- The comment of a field stands above it. -/
theorem holds_fieldLines (x : Member) :
    blockComments.Holds [(4, x.field.docs)] (fieldLines x) := by
  have hjavadoc : javadoc "    " x.field.docs = blockComments.block (4, x.field.docs) :=
    javadoc_eq _ rfl rfl
  rw [fieldLines, hjavadoc]
  refine (Holds.code_append (holds_block _) ?_).append_code ?_
  · exact code_cons.2 ⟨ne_opening_lit rfl rfl, code_nil⟩
  · simp only [code_cons]
    exact ⟨ne_opening_append_lit rfl rfl, ne_opening_append_lit rfl rfl, code_nil⟩

theorem code_accessors (x : Member) : Code (accessors x) := by
  simp only [accessors, code_cons]
  refine ⟨?_, ?_, ?_, ?_, ?_, ?_, ?_, ?_, code_nil⟩
  · exact ne_opening_lit rfl rfl
  · exact ne_opening_append_lit rfl rfl
  · exact ne_opening_append_lit rfl rfl
  · exact ne_opening_lit rfl rfl
  · exact ne_opening_lit rfl rfl
  · exact ne_opening_append_lit rfl rfl
  · exact ne_opening_append_lit rfl rfl
  · exact ne_opening_lit rfl rfl

theorem holds_render (package : String) {m : CommandModel} {xs : List Member}
    (hxs : xs.map (·.field) = m.fields) :
    blockComments.Holds (blockComments.places m) (render package m xs) := by
  have hplaces : blockComments.places m =
      [(0, m.docs)] ++ xs.map fun x => (4, x.field.docs) := by
    rw [BlockComments.places, ← hxs]
    simp [blockComments, Function.comp_def]
  have hjavadoc : javadoc "" m.docs = blockComments.block (0, m.docs) :=
    javadoc_eq _ String.ofList_nil.symm rfl
  rw [hplaces, render, hjavadoc]
  refine (((((Holds.code_append (holds_block _) (code_append.2 ⟨?_, ?_⟩)).append_code ?_).append
    (holds_flatMap fun x _ => holds_fieldLines x)).append_code ?_).append_code
    (code_flatMap code_accessors)).append_code ?_
  · simp only [code_cons]
    exact ⟨ne_opening_append rfl fun _ => rfl, ne_opening_append_lit rfl rfl,
      ne_opening_lit rfl rfl, code_nil⟩
  · split
    · exact code_nil
    · simp only [code_cons]
      exact ⟨ne_opening_lit rfl rfl, ne_opening_lit rfl rfl, code_nil⟩
  · simp only [code_cons]
    exact ⟨ne_opening_append_lit rfl rfl, ne_opening_append_lit rfl rfl, code_nil⟩
  · simp only [code_cons]
    refine ⟨?_, ?_, ?_, ?_, ?_, ?_, ?_, ?_, code_nil⟩
    · exact ne_opening_lit rfl rfl
    · exact ne_opening_append_lit rfl rfl
    · exact ne_opening_lit rfl rfl
    · exact ne_opening_lit rfl rfl
    · exact ne_opening_lit rfl rfl
    · exact ne_opening_append_lit rfl rfl
    · exact ne_opening_append_lit rfl rfl
    · exact ne_opening_lit rfl rfl
  · exact code_cons.2 ⟨ne_opening_lit rfl rfl, code_nil⟩

end Java

/-! ## JavaScript -/

namespace JavaScript

/-- The comment of a JavaScript class. -/
def blockComments : BlockComments where
  texts lines := lines.map fun line => ' ' :: blockCommentText line
  commandIndent := 0
  fieldIndent? := none
  absent := []
  unclosed_texts lines text ht := by
    obtain ⟨line, -, rfl⟩ := List.mem_map.1 ht
    exact unclosed_cons.2 ⟨unclosed_cons.2 ⟨unclosed_blockCommentText line, by simp⟩, by simp⟩
  absent_texts := by simp

theorem blockComment_eq (docs : Option String) :
    blockComment docs = blockComments.block (0, docs) := by
  have hopen : "/**" = opening 0 := rfl
  have hclose : " */" = closing 0 := rfl
  have hline : ∀ text, " * " ++ String.ofList text = lineAt 0 (' ' :: '*' :: ' ' :: text) :=
    fun text => lineAt_append 0 [' ', '*', ' '] text
  unfold blockComment BlockComments.block BlockComments.body
  cases hdocs : docLines docs with
  | nil => rfl
  | cons first rest =>
    have hne : first :: rest ≠ [] := List.cons_ne_nil first rest
    simp only [hopen, hclose, hline, if_neg hne, List.map_map, blockComments]
    rfl

theorem code_fieldTable (xs : List Member) : Code (fieldTable xs) := by
  unfold fieldTable
  split
  · simp only [code_cons]
    exact ⟨ne_opening_lit rfl rfl, ne_opening_lit rfl rfl, code_nil⟩
  · refine code_append.2 ⟨code_append.2 ⟨?_, ?_⟩, ?_⟩
    · exact code_cons.2 ⟨ne_opening_lit rfl rfl, code_nil⟩
    · exact code_map fun x => ne_opening_append_lit rfl rfl
    · simp only [code_cons]
      exact ⟨ne_opening_lit rfl rfl, ne_opening_lit rfl rfl, code_nil⟩

/-- The line comments of a property open no block comment. -/
theorem code_property (x : Member) : Code (property x) := by
  refine code_append.2 ⟨code_map fun line => ?_, code_cons.2 ⟨?_, code_nil⟩⟩
  · exact ne_opening_append rfl fun _ => rfl
  · exact ne_opening_append_lit rfl rfl

theorem holds_render (m : CommandModel) (xs : List Member) :
    blockComments.Holds (blockComments.places m) (render m xs) := by
  have hplaces : blockComments.places m = [(0, m.docs)] := rfl
  rw [hplaces, render, blockComment_eq]
  refine ((((((Holds.code_append (holds_block _) ?_).append_code ?_).append_code
    (code_fieldTable xs)).append_code ?_).append_code ?_).append_code
    (code_flatMap code_property)).append_code ?_
  · simp only [code_cons]
    exact ⟨ne_opening_append rfl fun _ => rfl, ne_opening_lit rfl rfl, ne_opening_lit rfl rfl,
      code_nil⟩
  · simp only [code_cons]
    exact ⟨ne_opening_append_lit rfl rfl, ne_opening_append_lit rfl rfl, ne_opening_lit rfl rfl,
      code_nil⟩
  · simp only [code_cons]
    exact ⟨ne_opening_lit rfl rfl, ne_opening_lit rfl rfl, code_nil⟩
  · split
    · exact code_cons.2 ⟨ne_opening_lit rfl rfl, code_nil⟩
    · exact code_nil
  · simp only [code_cons]
    exact ⟨ne_opening_lit rfl rfl, ne_opening_lit rfl rfl, code_nil⟩

end JavaScript

/-! ## Built-in languages -/

/-- The block comments of a built-in language. -/
def blockComments? (language : String) : Option BlockComments :=
  match language with
  | "cplusplus" => some Cpp.blockComments
  | "java" => some Java.blockComments
  | "javascript" => some JavaScript.blockComments
  | _ => none

/-- What a built-in language renders holds the comments for the documentations of the command. -/
theorem holds_of_builtin? {language : String} {c : Config} {t : Target} {k : BlockComments}
    (ht : builtin? language c = some t) (hk : blockComments? language = some k) {m : CommandModel}
    {xs : List Member} (hxs : xs.map (·.field) = m.fields) :
    k.Holds (k.places m) (t.render m xs) := by
  unfold blockComments? at hk
  split at hk
  · obtain rfl := Option.some.inj ht
    obtain rfl := Option.some.inj hk
    exact Cpp.holds_render (Cpp.nested c.typeNamespace) hxs
  · obtain rfl := Option.some.inj ht
    obtain rfl := Option.some.inj hk
    exact Java.holds_render c.javaPackage hxs
  · obtain rfl := Option.some.inj ht
    obtain rfl := Option.some.inj hk
    exact JavaScript.holds_render m xs
  · simp at hk

/-- **Documentation never closes a block comment.** The lines of an emitted file hold the comments
for the documentations of the command, in order and with no other comment opened; and behind every
line that opens one, the first end of a comment is in the target's own closing line. In Java no
comment holds a backslash. -/
theorem blockComments_closed {language : String} {c : Config} {t : Target} {k : BlockComments}
    (ht : builtin? language c = some t) (hk : blockComments? language = some k) {m : CommandModel}
    {text : String} (h : t.emit m = .ok text) :
    (∃ members, t.memberList m.typeName m.fields = .ok members ∧
      text = sourceText (t.render m members) ∧ k.Holds (k.places m) (t.render m members) ∧
      k.Closed (k.places m) (t.render m members)) ∧
    (language = "java" → '\\' ∈ k.absent) := by
  obtain ⟨-, members, hmembers, htext⟩ := emit_eq_ok_iff.1 h
  have hholds := holds_of_builtin? ht hk (memberList_eq_ok hmembers).1
  refine ⟨⟨members, hmembers, htext, hholds, hholds.closed⟩, ?_⟩
  rintro rfl
  obtain rfl := Option.some.inj hk
  exact List.mem_singleton.2 rfl

/-- Ends of comments and an escape that spells a star, at the edges of lines and within them. -/
theorem blockComments_closed_ping :
    let f : FieldModel := ⟨"delay", "delay", .integer, some "**/ *//\n/ \\u002a/ *"⟩
    let m : CommandModel := ⟨"Ping", "ping", some "/*/", [f]⟩
    let k := Java.blockComments
    let t := java "generated.commands"
    let text := sourceText (t.render m [⟨f, ⟨.integer, false⟩, "delay"⟩])
    builtin? "java" {} = some t ∧ blockComments? "java" = some k ∧ t.emit m = .ok text ∧
      (∃ members, t.memberList m.typeName m.fields = .ok members ∧
        text = sourceText (t.render m members) ∧ k.Holds (k.places m) (t.render m members) ∧
        k.Closed (k.places m) (t.render m members)) ∧
      '\\' ∈ k.absent := by
  intro f m k t text
  have ht : builtin? "java" {} = some t := rfl
  have hk : blockComments? "java" = some k := rfl
  have h : t.emit m = .ok text :=
    emit_eq_ok_iff.2 ⟨by decide +kernel, [⟨f, ⟨.integer, false⟩, "delay"⟩], by decide +kernel, rfl⟩
  obtain ⟨hclosed, hjava⟩ := blockComments_closed ht hk h
  exact ⟨ht, hk, h, hclosed, hjava rfl⟩

end Target

end CommandForge
