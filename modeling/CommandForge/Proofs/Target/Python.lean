import CommandForge.Proofs.Target.Accepted
import CommandForge.Proofs.Target.DocLines
import CommandForge.Target.Python
/-!
# Reading Python dataclasses

A docstring may hold any row but the one that ends it, since three quotes in a row are escaped
(`docstringText_ne_quotes`), so it is cut off first. Of the rows behind it, those that are neither
blank nor comments are the command name and the attributes.
-/

namespace CommandForge

/-- A replaced text that starts unlike what is put in starts as the text itself does. -/
theorem Text.eq_cons_of_replaceAll {p w d : Char} {pat with_ cs ds : List Char} (hd : d ≠ w)
    (h : replaceAll p pat (w :: with_) cs = d :: ds) :
    dropPattern? (p :: pat) cs = none ∧
      ∃ rest, cs = d :: rest ∧ replaceAll p pat (w :: with_) rest = ds := by
  cases cs with
  | nil => simp [replaceAll] at h
  | cons c cs =>
    rw [replaceAll] at h
    split at h
    · exact absurd (List.cons.inj h).1.symm hd
    · rename_i hnone
      obtain ⟨rfl, htail⟩ := List.cons.inj h
      exact ⟨hnone, cs, rfl, htail⟩

namespace Target.Python

open Identifier (IsName)

/-! ## Docstrings -/

theorem docstringText_ne_quotes (line : List Char) : docstringText line ≠ ['"', '"', '"'] := by
  intro h
  obtain ⟨hnone, cs, hcs, h₁⟩ := Text.eq_cons_of_replaceAll (by decide) h
  obtain ⟨-, ds, hds, h₂⟩ := Text.eq_cons_of_replaceAll (by decide) h₁
  obtain ⟨-, es, hes, -⟩ := Text.eq_cons_of_replaceAll (by decide) h₂
  rw [hcs, hds, hes] at hnone
  simp [Text.dropPattern?] at hnone

theorem newline_notMem_docstringText {line : List Char} (h : '\n' ∉ line) :
    '\n' ∉ docstringText line :=
  Text.notMem_replaceAll (by decide) (Text.notMem_replaceAll (by decide) h)

/-- The row that opens or closes a docstring. -/
def quotes : List Char := [' ', ' ', ' ', ' ', '"', '"', '"']

/-- The rows behind a docstring and its blank row, if there is one. -/
def skipDocstring : List (List Char) → List (List Char)
  | [] => []
  | row :: rest => if row = quotes then (rest.dropWhile (· ≠ quotes)).drop 2 else row :: rest

theorem isLine_of_mem_docstring {docs : Option String} {line : String}
    (h : line ∈ docstring docs) : IsLine line := by
  unfold docstring at h
  split at h
  · simp at h
  · simp only [List.mem_append, List.mem_cons, List.not_mem_nil, or_false, List.mem_map] at h
    rcases h with (rfl | ⟨doc, hdoc, rfl⟩) | rfl | rfl
    · exact isLine_lit rfl rfl
    · have hn := newline_notMem_docstringText (newline_notMem_of_mem_docLines hdoc)
      exact isLine_append_ofList (isLine_lit rfl rfl) hn
    · exact isLine_lit rfl rfl
    · exact isLine_lit rfl rfl

theorem skipDocstring_rows (docs : Option String) {row : List Char} (hrow : row ≠ quotes)
    (rest : List (List Char)) :
    skipDocstring (rows (docstring docs) ++ row :: rest) = row :: rest := by
  rw [rows_eq_map fun line => isLine_of_mem_docstring]
  unfold docstring
  split
  · rw [List.map_nil, List.nil_append, skipDocstring, if_neg hrow]
  · -- Of the rows behind the opening one only the closing one is three quotes.
    have hdoc : ∀ r ∈ (docLines docs).map fun line =>
        ("    " ++ String.ofList (docstringText line)).toList, r ≠ quotes := by
      intro r hr he
      obtain ⟨line, -, rfl⟩ := List.mem_map.1 hr
      rw [String.toList_append, toList_lit rfl, String.toList_ofList] at he
      exact docstringText_ne_quotes line (List.append_cancel_left he)
    have hdrop : ((docLines docs).map (fun line => ("    " ++ String.ofList
        (docstringText line)).toList) ++ quotes :: [] :: row :: rest).dropWhile (· ≠ quotes) =
          quotes :: [] :: row :: rest := by
      rw [List.dropWhile_append_of_pos fun r hr => by simpa using hdoc r hr]
      simp
    have hrows : (["    \"\"\""] ++ (docLines docs).map (fun line =>
        "    " ++ String.ofList (docstringText line)) ++ ["    \"\"\"", ""]).map String.toList ++
          row :: rest = quotes :: ((docLines docs).map (fun line => ("    " ++ String.ofList
            (docstringText line)).toList) ++ quotes :: [] :: row :: rest) := by
      have hquotes : "    \"\"\"".toList = quotes := toList_lit rfl
      have hblank : "".toList = [] := toList_lit rfl
      simp only [List.map_append, List.map_cons, List.map_nil, List.map_map, Function.comp_def,
        hquotes, hblank, List.append_assoc, List.cons_append, List.nil_append]
    rw [hrows, skipDocstring, if_pos rfl, hdrop]
    rfl

/-! ## The rows behind the docstring -/

/-- The row is neither blank nor a comment. -/
def declares (row : List Char) : Bool := !row.isEmpty && !opens 4 '#' row

/-- The row of the command name. -/
def nameRow (m : CommandModel) : List Char :=
  ("    COMMAND_NAME: ClassVar[str] = \"" ++ m.commandName ++ "\"").toList

/-- The row of an attribute. -/
def attributeRow (x : Member) : List Char :=
  ("    " ++ x.name ++ ": " ++ typeName x.shape ++ " = " ++ defaultValue x.shape).toList

theorem nameRow_ne_quotes (m : CommandModel) : nameRow m ≠ quotes := by
  have hne : (nameRow m == quotes) = false :=
    test_around (f := (· == quotes)) rfl fun _ => rfl
  exact ne_of_beq_false hne

theorem declares_attributeRow {x : Member} (h : python.WellNamed x) :
    declares (attributeRow x) = true := by
  have hname : '#' ∉ x.name.toList := h.isName_name.notMem (by decide)
  unfold attributeRow
  simp only [String.append_assoc]
  rw [String.toList_append, toList_lit rfl, String.toList_append]
  cases hn : x.name.toList with
  | nil =>
    rw [List.nil_append]
    exact test_append (f := fun cs => declares ([' ', ' ', ' ', ' '] ++ cs)) rfl fun _ => rfl
  | cons c cs =>
    have hc : '#' ≠ c := by
      rintro rfl
      exact hname (hn ▸ List.mem_cons_self)
    simp [declares, opens, List.isPrefixOf, hc]

theorem kept_attributeLines {x : Member} (h : python.WellNamed x) :
    kept declares (attributeLines x) = [attributeRow x] := by
  have hname := isLine_of_isName h.isName_name
  have hscalar : IsLine (scalarType x.shape.scalar) := by
    cases x.shape.scalar <;> exact isLine_lit rfl rfl
  have htype : IsLine (typeName x.shape) :=
    notMem_optional (isLine_lit rfl rfl) hscalar (isLine_lit rfl rfl)
  have hdefault : IsLine (defaultValue x.shape) := by
    rcases x.shape with ⟨_ | _ | _, _ | _⟩ <;> exact isLine_lit rfl rfl
  have hcomments : kept declares (comments x.field.docs) = [] := by
    refine kept_eq_nil fun line hl => ?_
    obtain ⟨doc, hdoc, rfl⟩ := List.mem_map.1 hl
    have hn := newline_notMem_of_mem_docLines hdoc
    exact ⟨isLine_append_ofList (isLine_lit rfl rfl) hn, test_append rfl fun _ => rfl⟩
  unfold attributeLines
  rw [kept_append, hcomments, kept_cons_of_pos]
  · rfl
  · refine isLine_append.2 ⟨isLine_around ?_ htype (isLine_lit rfl rfl), hdefault⟩
    exact isLine_around (isLine_lit rfl rfl) hname (isLine_lit rfl rfl)
  · exact declares_attributeRow h

/-! ## The file -/

/-- The row of the class, and those behind the docstring that declare something. -/
def read (rows : List (List Char)) : List (List Char) :=
  match rows.drop 8 with
  | [] => []
  | head :: rest => head :: (skipDocstring rest).filter declares

/-- The row of the class. -/
def classRow (m : CommandModel) : List Char := ("class " ++ m.typeName ++ "(Command):").toList

/-- The lines down to the class. -/
def preamble (m : CommandModel) : List String :=
  ["# " ++ generatedNotice,
    "from dataclasses import dataclass",
    typingImport m,
    "",
    "from .base_command import Command",
    "",
    "",
    "@dataclass",
    "class " ++ m.typeName ++ "(Command):"]

theorem isLine_of_mem_preamble {m : CommandModel} (h : IsName m.typeName) {line : String}
    (hl : line ∈ preamble m) : IsLine line := by
  have htyping : IsLine (typingImport m) := by
    unfold typingImport
    split <;> exact isLine_lit rfl rfl
  unfold preamble at hl
  simp only [List.mem_cons, List.not_mem_nil, or_false] at hl
  rcases hl with rfl | rfl | rfl | rfl | rfl | rfl | rfl | rfl | rfl
  · exact isLine_append.2 ⟨isLine_lit rfl rfl, isLine_lit rfl rfl⟩
  · exact isLine_lit rfl rfl
  · exact htyping
  · exact isLine_lit rfl rfl
  · exact isLine_lit rfl rfl
  · exact isLine_lit rfl rfl
  · exact isLine_lit rfl rfl
  · exact isLine_lit rfl rfl
  · exact isLine_named (isLine_lit rfl rfl) h (isLine_lit rfl rfl)

theorem read_render {m : CommandModel} {xs : List Member} (h : python.Accepts m xs) :
    read (rows (render m xs)) =
      [classRow m, nameRow m] ++ xs.flatMap fun x => [attributeRow x] := by
  have hname : rows ["    COMMAND_NAME: ClassVar[str] = \"" ++ m.commandName ++ "\""] =
      [nameRow m] :=
    rows_cons (isLine_named (isLine_lit rfl rfl) h.isName_commandName (isLine_lit rfl rfl)) []
  have hdeclares : declares (nameRow m) = true := test_around rfl fun _ => rfl
  have hblank : kept declares (if xs.isEmpty then [] else [""]) = [] := by
    split
    · rfl
    · exact kept_lits (.cons rfl .nil) rfl
  have hattributes : kept declares (xs.flatMap attributeLines) =
      xs.flatMap fun x => [attributeRow x] :=
    kept_flatMap fun x hx => kept_attributeLines (h.wellNamed x hx)
  have hrows : rows (render m xs) = (preamble m).map String.toList ++ (rows (docstring m.docs) ++
      nameRow m :: (rows (if xs.isEmpty then [] else [""]) ++
        rows (xs.flatMap attributeLines))) := by
    rw [← rows_eq_map fun line => isLine_of_mem_preamble h.isName_typeName]
    unfold render
    simp only [rows_append, hname, List.append_assoc]
    rfl
  have hread : ∀ rest, read ((preamble m).map String.toList ++ rest) =
      classRow m :: (skipDocstring rest).filter declares := fun _ => rfl
  rw [hrows, hread, skipDocstring_rows m.docs (nameRow_ne_quotes m),
    List.filter_cons_of_pos hdeclares, List.filter_append]
  rw [kept] at hblank hattributes
  rw [hblank, hattributes]
  rfl

/-! ## What the rows tell -/

theorem heading_inj {m n : CommandModel} (h : [classRow m, nameRow m] = [classRow n, nameRow n]) :
    m.typeName = n.typeName ∧ m.commandName = n.commandName := by
  obtain ⟨hclass, hrest⟩ := List.cons.inj h
  exact ⟨around_inj hclass, around_inj (List.cons.inj hrest).1⟩

theorem attributeRow_inj {x y : Member} (hx : python.WellNamed x) (hy : python.WellNamed y)
    (h : attributeRow x = attributeRow y) :
    x.field.wireName = y.field.wireName ∧ x.shape = y.shape := by
  unfold attributeRow at h
  simp only [String.toList_append, List.append_assoc] at h
  obtain ⟨hname, hrest⟩ := append_cons_inj (s := ':') (hx.isName_name.notMem (by decide))
    (hy.isName_name.notMem (by decide)) (List.append_cancel_left h)
  refine ⟨?_, ?_⟩
  · have hnames := String.toList_inj.1 hname
    rwa [hx.name_eq, hy.name_eq] at hnames
  · exact Shape.eq_of_nodup (f := fun s => " ".toList ++ ((typeName s).toList ++
      (" = ".toList ++ (defaultValue s).toList))) (by decide) hrest

/-- How Python dataclasses are read. -/
def reading : Reading python where
  read := read
  front m := [classRow m, nameRow m]
  back _ := []
  declaration x := [attributeRow x]
  width := 1
  width_pos := Nat.one_pos
  length_heading _ _ := by simp
  length_declaration _ := rfl
  isName_memberName _ h := h
  read_render h := by rw [List.append_nil]; exact read_render h
  names_eq _ _ h _ := heading_inj h
  member_eq hx hy h := attributeRow_inj hx hy (List.cons.inj h).1

end Target.Python

end CommandForge
