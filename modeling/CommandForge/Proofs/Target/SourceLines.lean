import CommandForge.Proofs.Lists
import CommandForge.Target.Basic
/-!
# The lines of a source text

A source text falls back into its lines (`rows_eq_of_sourceText_eq`). A line may hold line feeds
of its own when a configured name does, so what is compared are rows: the pieces between line
feeds. `kept` are the rows that pass a test; with it a statement about a whole file is one about
each of its lines.
-/

namespace CommandForge

namespace Target

/-! ## Rows -/

/-- A text without a line feed. -/
def IsLine (s : String) : Prop := '\n' ∉ s.toList

instance (s : String) : Decidable (IsLine s) := inferInstanceAs (Decidable ('\n' ∉ s.toList))

theorem isLine_append {s t : String} : IsLine (s ++ t) ↔ IsLine s ∧ IsLine t := by
  simp [IsLine]

theorem isLine_ofList {cs : List Char} : IsLine (String.ofList cs) ↔ '\n' ∉ cs := by
  simp [IsLine]

/-- The pieces of lines between line feeds. -/
def rows (lines : List String) : List (List Char) :=
  lines.flatMap fun line => Text.split '\n' line.toList

theorem toList_sourceText_cons (line : String) (lines : List String) :
    (sourceText (line :: lines)).toList = line.toList ++ '\n' :: (sourceText lines).toList := by
  simp [sourceText, String.join_cons]

theorem toList_sourceText_append (as bs : List String) :
    (sourceText (as ++ bs)).toList = (sourceText as).toList ++ (sourceText bs).toList := by
  induction as with
  | nil => simp [sourceText]
  | cons a as ih =>
    rw [List.cons_append, toList_sourceText_cons, ih, toList_sourceText_cons, List.append_assoc,
      List.cons_append]

theorem notMem_sourceText {c : Char} (hc : c ≠ '\n') {lines : List String}
    (h : ∀ line ∈ lines, c ∉ line.toList) : c ∉ (sourceText lines).toList := by
  induction lines with
  | nil => simp [sourceText]
  | cons line lines ih =>
    obtain ⟨hline, hlines⟩ := List.forall_mem_cons.1 h
    rw [toList_sourceText_cons, List.mem_append, List.mem_cons, not_or, not_or]
    exact ⟨hline, hc, ih hlines⟩

theorem split_sourceText (lines : List String) :
    Text.split '\n' (sourceText lines).toList = rows lines ++ [[]] := by
  induction lines with
  | nil => simp [sourceText, rows, Text.split]
  | cons line lines ih =>
    rw [toList_sourceText_cons, Text.split_append_cons, ih, rows, rows, List.flatMap_cons,
      List.append_assoc]

theorem rows_eq_of_sourceText_eq {as bs : List String} (h : sourceText as = sourceText bs) :
    rows as = rows bs := by
  have hs := congrArg (fun text => Text.split '\n' text.toList) h
  simp only [split_sourceText] at hs
  exact List.append_cancel_right hs

theorem rows_append (as bs : List String) : rows (as ++ bs) = rows as ++ rows bs :=
  List.flatMap_append

theorem rows_cons {line : String} (h : IsLine line) (lines : List String) :
    rows (line :: lines) = line.toList :: rows lines := by
  rw [rows, List.flatMap_cons, Text.split_of_notMem h]
  rfl

/-- Lines without a line feed are rows as they are. -/
theorem rows_eq_map {lines : List String} (h : ∀ line ∈ lines, IsLine line) :
    rows lines = lines.map String.toList := by
  induction lines with
  | nil => rfl
  | cons line lines ih =>
    rw [rows_cons (h line List.mem_cons_self), ih fun l hl => h l (List.mem_cons_of_mem line hl),
      List.map_cons]

/-! ## Rows that pass a test -/

/-- The rows that pass a test. -/
def kept (keep : List Char → Bool) (lines : List String) : List (List Char) :=
  (rows lines).filter keep

variable {keep : List Char → Bool}

theorem kept_append (as bs : List String) :
    kept keep (as ++ bs) = kept keep as ++ kept keep bs := by
  rw [kept, rows_append, List.filter_append, kept, kept]

theorem kept_cons_of_pos {line : String} (hl : IsLine line) (hk : keep line.toList = true)
    (lines : List String) : kept keep (line :: lines) = line.toList :: kept keep lines := by
  rw [kept, rows_cons hl, List.filter_cons_of_pos hk, kept]

theorem kept_cons_of_neg {line : String} (hl : IsLine line) (hk : keep line.toList = false)
    (lines : List String) : kept keep (line :: lines) = kept keep lines := by
  rw [kept, rows_cons hl, List.filter_cons_of_neg (by simp [hk]), kept]

theorem kept_eq_nil {lines : List String}
    (h : ∀ line ∈ lines, IsLine line ∧ keep line.toList = false) : kept keep lines = [] := by
  induction lines with
  | nil => rfl
  | cons line lines ih =>
    obtain ⟨hl, hk⟩ := h line List.mem_cons_self
    rw [kept_cons_of_neg hl hk, ih fun l hm => h l (List.mem_cons_of_mem line hm)]

/-- What is kept of the blocks for some items, from what is kept of each. -/
theorem kept_flatMap {α : Type} {xs : List α} {f : α → List String} {g : α → List (List Char)}
    (h : ∀ x ∈ xs, kept keep (f x) = g x) : kept keep (xs.flatMap f) = xs.flatMap g := by
  induction xs with
  | nil => rfl
  | cons x xs ih =>
    rw [List.flatMap_cons, kept_append, h x List.mem_cons_self,
      ih fun y hy => h y (List.mem_cons_of_mem x hy), List.flatMap_cons]

/-! ## Tests -/

/-- The row has `depth` blanks and then `c`. -/
def opens (depth : Nat) (c : Char) (row : List Char) : Bool :=
  (List.replicate depth ' ' ++ [c]).isPrefixOf row

/-- The row ends in `c`. -/
def endsIn (c : Char) (row : List Char) : Bool := row.getLast? == some c

/-! ## Literals

The characters of a literal are left to unification: computing them from its bytes takes long. -/

section

variable {s t x : String} {cs : List Char}

theorem toList_lit (h : s = String.ofList cs) : s.toList = cs := by
  rw [h, String.toList_ofList]

theorem lit_append {ds : List Char} (hs : s = String.ofList cs) (ht : t = String.ofList ds) :
    s ++ t = String.ofList (cs ++ ds) := by
  rw [hs, ht, String.ofList_append]

theorem notMem_lit {c : Char} (h : s = String.ofList cs) (hc : cs.contains c = false) :
    c ∉ s.toList := by
  rw [toList_lit h]
  simpa using hc

theorem isLine_lit (h : s = String.ofList cs) (hc : cs.contains '\n' = false) : IsLine s :=
  notMem_lit h hc

theorem notMem_around {c : Char} (hs : c ∉ s.toList) (hx : c ∉ x.toList) (ht : c ∉ t.toList) :
    c ∉ (s ++ x ++ t).toList := by
  simp only [String.toList_append, List.mem_append, not_or]
  exact ⟨⟨hs, hx⟩, ht⟩

theorem isLine_around (hs : IsLine s) (hx : IsLine x) (ht : IsLine t) : IsLine (s ++ x ++ t) :=
  notMem_around hs hx ht

variable {f : List Char → Bool} {b : Bool}

theorem test_lit (h : s = String.ofList cs) (hf : f cs = b) : f s.toList = b := by
  rw [toList_lit h, hf]

/-- The start of a line decides a test, whatever follows. -/
theorem test_append (h : s = String.ofList cs) (hf : ∀ rest, f (cs ++ rest) = b) :
    f (s ++ t).toList = b := by
  rw [String.toList_append, toList_lit h, hf]

theorem test_around (h : s = String.ofList cs) (hf : ∀ rest, f (cs ++ rest) = b) :
    f (s ++ x ++ t).toList = b := by
  rw [String.append_assoc, test_append h hf]

/-- The end of a line decides what it ends in. -/
theorem endsIn_append {c : Char} (h : t = String.ofList cs) (hne : cs.isEmpty = false)
    (hb : endsIn c cs = b) : endsIn c (s ++ t).toList = b := by
  have hcs : cs ≠ [] := by
    rintro rfl
    simp at hne
  rw [endsIn, String.toList_append, toList_lit h, List.getLast?_append_of_ne_nil _ hcs, ← hb,
    endsIn]

theorem kept_lits {lines : List String} {rows : List (List Char)}
    (h : List.Forall₂ (fun line cs => line = String.ofList cs) lines rows)
    (hk : (rows.all fun cs => !cs.contains '\n' && !keep cs) = true) : kept keep lines = [] := by
  induction h with
  | nil => rfl
  | cons hline _ ih =>
    simp only [List.all_cons, Bool.and_eq_true, Bool.not_eq_true'] at hk
    rw [kept_cons_of_neg (isLine_lit hline hk.1.1) (test_lit hline hk.1.2), ih hk.2]

/-- The notice of a generated file does not pass when its mark does not. -/
theorem kept_cons_notice (h : s = String.ofList cs) (hc : cs.contains '\n' = false)
    (hk : ∀ rest, keep (cs ++ rest) = false) (lines : List String) :
    kept keep ((s ++ generatedNotice) :: lines) = kept keep lines :=
  kept_cons_of_neg (isLine_append.2 ⟨isLine_lit h hc, isLine_lit rfl rfl⟩) (test_append h hk) lines

end

/-! ## Cutting apart -/

/-- Lines that agree around two texts tell them apart. -/
theorem around_inj {s t x y : String} (h : (s ++ x ++ t).toList = (s ++ y ++ t).toList) : x = y :=
  (String.append_right_inj s).1 ((String.append_left_inj t).1 (String.toList_inj.1 h))

end Target

end CommandForge
