import CommandForge.Proofs.Target.Accepted
import CommandForge.Proofs.Target.DocLines
import CommandForge.Target.Rust
/-!
# Reading Rust structs

A field stands on a row that starts with its visibility, and the trait implementation behind the
struct names the type and the command. Documentation and attributes start otherwise. A raw
identifier tells its name, since no name holds a number sign.
-/

namespace CommandForge.Target.Rust

open Identifier (IsName)

/-- The row declares the implementation, a field or the command name. -/
def declares (row : List Char) : Bool :=
  opens 0 'i' row || opens 4 'p' row || opens 4 'c' row

variable {runtimeCrate : String}

/-! ## Identifiers -/

theorem notMem_fieldIdent {name : String} (h : IsName name) {c : Char}
    (hc : Identifier.isNameChar c = false) (hr : c ∉ "r#".toList) :
    c ∉ (fieldIdent name).toList := by
  unfold fieldIdent
  split
  · rw [String.toList_append, List.mem_append, not_or]
    exact ⟨hr, h.notMem hc⟩
  · exact h.notMem hc

theorem fieldIdent_inj {name name' : String} (h : IsName name) (h' : IsName name')
    (he : fieldIdent name = fieldIdent name') : name = name' := by
  -- A raw identifier holds a number sign, and no name does.
  have hraw : ∀ {s t : String}, IsName t → "r#" ++ s ≠ t := by
    rintro s t ht rfl
    exact ht.notMem (c := '#') (by decide) (by simp)
  unfold fieldIdent at he
  split at he <;> split at he
  · exact (String.append_right_inj _).1 he
  · exact absurd he (hraw h')
  · exact absurd he.symm (hraw h)
  · exact he

/-! ## Fields -/

/-- No comment passes when what it starts with does not. -/
theorem kept_docComments {indent : String} {cs : List Char} (h : indent = String.ofList cs)
    (hc : (cs ++ ['/', '/', '/']).contains '\n' = false)
    (hd : ∀ rest, declares (cs ++ ['/', '/', '/'] ++ rest) = false) (docs : Option String) :
    kept declares (docComments indent docs) = [] := by
  refine kept_eq_nil fun line hl => ?_
  obtain ⟨doc, hdoc, rfl⟩ := List.mem_map.1 hl
  have hmark : indent ++ "///" = String.ofList (cs ++ ['/', '/', '/']) := lit_append h rfl
  have hn := newline_notMem_of_mem_docLines hdoc
  exact ⟨isLine_marked (isLine_lit hmark hc) hn, test_marked hmark hd⟩

/-- The row of a field. -/
def fieldRow (x : Member) : List Char :=
  ("    pub " ++ fieldIdent x.name ++ ": " ++ typeName x.shape ++ ",").toList

theorem kept_fieldLines {x : Member} (h : (rust runtimeCrate).WellNamed x) :
    kept declares (fieldLines x) = [fieldRow x] := by
  have hident : IsLine (fieldIdent x.name) :=
    notMem_fieldIdent h.isName_name (by decide) (by decide)
  have hscalar : IsLine (scalarType x.shape.scalar) := by
    cases x.shape.scalar <;> exact isLine_lit rfl rfl
  have htype : IsLine (typeName x.shape) :=
    notMem_optional (isLine_lit rfl rfl) hscalar (isLine_lit rfl rfl)
  have hattribute : kept declares (if x.shape.optional then
      ["    #[serde(skip_serializing_if = \"Option::is_none\")]"] else []) = [] := by
    split
    · exact kept_lits (.cons rfl .nil) rfl
    · rfl
  unfold fieldLines
  rw [kept_append, kept_append, kept_docComments rfl rfl fun _ => rfl, hattribute,
    kept_cons_of_pos]
  · rfl
  · exact isLine_around (isLine_around (isLine_lit rfl rfl) hident (isLine_lit rfl rfl)) htype
      (isLine_lit rfl rfl)
  · simp only [String.append_assoc]
    exact test_append rfl fun _ => rfl

theorem kept_structLines {xs : List Member} (h : ∀ x ∈ xs, (rust runtimeCrate).WellNamed x)
    {name : String} (hn : IsName name) :
    kept declares (structLines name xs) = xs.flatMap fun x => [fieldRow x] := by
  unfold structLines
  split
  · rename_i hx
    rw [List.isEmpty_iff.1 hx, kept_cons_of_neg]
    · rfl
    · exact isLine_named (isLine_lit rfl rfl) hn (isLine_lit rfl rfl)
    · exact test_around rfl fun _ => rfl
  · have hclose : kept declares ["\x7d"] = [] := kept_lits (.cons rfl .nil) rfl
    rw [kept_append, kept_append, kept_flatMap fun x hx => kept_fieldLines (h x hx),
      kept_cons_of_neg, hclose, List.append_nil]
    · rfl
    · exact isLine_named (isLine_lit rfl rfl) hn (isLine_lit rfl rfl)
    · exact test_around rfl fun _ => rfl

/-! ## The file -/

/-- The rows kept of what stands above the documentation, where the crate is named. -/
def preamble (runtimeCrate : String) : List (List Char) :=
  kept declares ["// " ++ generatedNotice, "use " ++ runtimeCrate ++ "::Command;",
    "use serde::\x7bDeserialize, Serialize\x7d;", ""]

/-- The rows that name the type and the command. -/
def implementation (m : CommandModel) : List (List Char) :=
  [("impl Command for " ++ m.typeName ++ " \x7b").toList,
    ("    const COMMAND_NAME: &'static str = \"" ++ m.commandName ++ "\";").toList]

theorem kept_render {m : CommandModel} {xs : List Member} (h : (rust runtimeCrate).Accepts m xs) :
    kept declares (render runtimeCrate m xs) =
      preamble runtimeCrate ++ (xs.flatMap fun x => [fieldRow x]) ++ implementation m := by
  have hattributes : kept declares
      ["#[derive(Debug, Clone, Default, PartialEq, Eq, Serialize, Deserialize)]",
        "#[serde(default)]"] = [] :=
    kept_lits (.cons rfl (.cons rfl .nil)) rfl
  have himpl : kept declares ["", "impl Command for " ++ m.typeName ++ " \x7b",
      "    const COMMAND_NAME: &'static str = \"" ++ m.commandName ++ "\";", "\x7d"] =
        implementation m := by
    rw [← List.singleton_append, kept_append, kept_lits (.cons rfl .nil) rfl, List.nil_append,
      kept_cons_of_pos, kept_cons_of_pos, kept_lits (.cons rfl .nil) rfl, implementation]
    · exact isLine_named (isLine_lit rfl rfl) h.isName_commandName (isLine_lit rfl rfl)
    · exact test_around rfl fun _ => rfl
    · exact isLine_named (isLine_lit rfl rfl) h.isName_typeName (isLine_lit rfl rfl)
    · exact test_around rfl fun _ => rfl
  unfold render
  rw [kept_append, kept_append, kept_append, kept_append, kept_docComments rfl rfl fun _ => rfl,
    hattributes, kept_structLines h.wellNamed h.isName_typeName, himpl, List.append_nil,
    List.append_nil]
  rfl

/-! ## What the rows tell -/

theorem implementation_inj {m n : CommandModel} (h : implementation m = implementation n) :
    m.typeName = n.typeName ∧ m.commandName = n.commandName := by
  obtain ⟨himpl, hrest⟩ := List.cons.inj h
  exact ⟨around_inj himpl, around_inj (List.cons.inj hrest).1⟩

theorem fieldRow_inj {x y : Member} (hx : (rust runtimeCrate).WellNamed x)
    (hy : (rust runtimeCrate).WellNamed y) (h : fieldRow x = fieldRow y) :
    x.field.wireName = y.field.wireName ∧ x.shape = y.shape := by
  unfold fieldRow at h
  simp only [String.toList_append, List.append_assoc] at h
  obtain ⟨hident, hrest⟩ := append_cons_inj (s := ':')
    (notMem_fieldIdent hx.isName_name (by decide) (by decide))
    (notMem_fieldIdent hy.isName_name (by decide) (by decide)) (List.append_cancel_left h)
  refine ⟨?_, ?_⟩
  · have hnames := fieldIdent_inj hx.isName_name hy.isName_name (String.toList_inj.1 hident)
    rwa [hx.name_eq, hy.name_eq] at hnames
  · have htypes := List.append_cancel_right (List.append_cancel_left hrest)
    exact Shape.eq_of_nodup (f := typeName) (by decide) (String.toList_inj.1 htypes)

/-- How Rust structs are read. -/
def reading (runtimeCrate : String) : Reading (rust runtimeCrate) where
  read rows := rows.filter declares
  front _ := preamble runtimeCrate
  back := implementation
  declaration x := [fieldRow x]
  width := 1
  width_pos := Nat.one_pos
  length_heading _ _ := by simp [implementation]
  length_declaration _ := rfl
  isName_memberName _ h := h
  read_render := kept_render
  names_eq _ _ _ h := implementation_inj h
  member_eq hx hy h := fieldRow_inj hx hy (List.cons.inj h).1

end CommandForge.Target.Rust
