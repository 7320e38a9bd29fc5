import CommandForge.Proofs.Target.Accepted
import CommandForge.Proofs.Target.DocLines
import CommandForge.Target.JavaScript
/-!
# Reading JavaScript classes

The head of the class, the command name and the entries of the field table stand on rows that no
comment starts like. The constructor is not read: the table tells all of it.
-/

namespace CommandForge.Target.JavaScript

/-- The row declares the class, its command name or a field. -/
def declares (row : List Char) : Bool :=
  opens 0 'e' row || (opens 4 's' row && row[11]? == some 'C') || opens 8 '\x7b' row

/-! ## Comments and properties -/

/-- Nothing is kept of a comment, whatever the documentation says. -/
theorem kept_blockComment (docs : Option String) : kept declares (blockComment docs) = [] := by
  unfold blockComment
  split
  · rfl
  · rw [kept_append, kept_append, kept_lits (.cons rfl .nil) rfl, kept_lits (.cons rfl .nil) rfl,
      List.nil_append, List.append_nil]
    refine kept_eq_nil fun line hl => ?_
    obtain ⟨doc, hdoc, rfl⟩ := List.mem_map.1 hl
    have hn := newline_notMem_blockCommentText (newline_notMem_of_mem_docLines hdoc)
    exact ⟨isLine_append_ofList (isLine_lit rfl rfl) hn, test_append rfl fun _ => rfl⟩

theorem isLine_initialValue (shape : Shape) : IsLine (initialValue shape) := by
  rcases shape with ⟨_ | _ | _, _ | _⟩ <;> exact isLine_lit rfl rfl

/-- Nothing is kept of what the constructor sets, nor of the comments above it. -/
theorem kept_property {x : Member} (h : javaScript.WellNamed x) :
    kept declares (property x) = [] := by
  refine kept_eq_nil fun line hl => ?_
  rw [property, List.mem_append, List.mem_singleton] at hl
  rcases hl with hl | rfl
  · obtain ⟨doc, hdoc, rfl⟩ := List.mem_map.1 hl
    have hn := newline_notMem_of_mem_docLines hdoc
    exact ⟨isLine_append_ofList (isLine_lit rfl rfl) hn, test_append rfl fun _ => rfl⟩
  · refine ⟨?_, ?_⟩
    · exact isLine_around (isLine_named (isLine_lit rfl rfl) h.isName_name (isLine_lit rfl rfl))
        (isLine_initialValue x.shape) (isLine_lit rfl rfl)
    · simp only [String.append_assoc]
      exact test_append rfl fun _ => rfl

/-! ## The table -/

theorem isLine_tableEntry {x : Member} (h : javaScript.WellNamed x) : IsLine (tableEntry x) := by
  have htype : IsLine (typeTag x.shape.scalar) := by
    cases x.shape.scalar <;> exact isLine_lit rfl rfl
  have hoptional : IsLine (optionalTag x.shape.optional) := by
    cases x.shape.optional <;> exact isLine_lit rfl rfl
  unfold tableEntry
  exact isLine_around (isLine_around (isLine_named (isLine_lit rfl rfl) h.isName_name
    (isLine_lit rfl rfl)) htype (isLine_lit rfl rfl)) hoptional (isLine_lit rfl rfl)

theorem declares_tableEntry (x : Member) : declares (tableEntry x).toList = true := by
  unfold tableEntry
  simp only [String.append_assoc]
  exact test_append rfl fun _ => rfl

/-- Each entry of the field table is one row. -/
theorem kept_fieldTable {xs : List Member} (h : ∀ x ∈ xs, javaScript.WellNamed x) :
    kept declares (fieldTable xs) = xs.flatMap fun x => [(tableEntry x).toList] := by
  have hentries : kept declares (xs.map tableEntry) =
      xs.flatMap fun x => [(tableEntry x).toList] := by
    rw [List.map_eq_flatMap]
    refine kept_flatMap fun x hx => ?_
    rw [kept_cons_of_pos (isLine_tableEntry (h x hx)) (declares_tableEntry x)]
    rfl
  unfold fieldTable
  split
  · rename_i hx
    rw [List.isEmpty_iff.1 hx]
    exact kept_lits (.cons rfl (.cons rfl .nil)) rfl
  · rw [kept_append, kept_append, hentries, kept_lits (.cons rfl .nil) rfl,
      kept_lits (.cons rfl (.cons rfl .nil)) rfl, List.nil_append, List.append_nil]

/-! ## The file -/

/-- The rows that declare the command. -/
def heading (m : CommandModel) : List (List Char) :=
  [("export class " ++ m.typeName ++ " extends Command \x7b").toList,
    ("    static COMMAND_NAME = '" ++ m.commandName ++ "';").toList]

theorem kept_heading {m : CommandModel} {xs : List Member} (h : javaScript.Accepts m xs) :
    kept declares ["export class " ++ m.typeName ++ " extends Command \x7b",
      "    static COMMAND_NAME = '" ++ m.commandName ++ "';", ""] = heading m := by
  rw [kept_cons_of_pos, kept_cons_of_pos, kept_lits (.cons rfl .nil) rfl, heading]
  · exact isLine_named (isLine_lit rfl rfl) h.isName_commandName (isLine_lit rfl rfl)
  · exact test_around rfl fun _ => rfl
  · exact isLine_named (isLine_lit rfl rfl) h.isName_typeName (isLine_lit rfl rfl)
  · exact test_around rfl fun _ => rfl

/-- What is kept of a file is the head of the class and an entry for each member. -/
theorem kept_render {m : CommandModel} {xs : List Member} (h : javaScript.Accepts m xs) :
    kept declares (render m xs) = heading m ++ xs.flatMap fun x => [(tableEntry x).toList] := by
  have htop : kept declares ["// " ++ generatedNotice,
      "import \x7b Command \x7d from './BaseCommand.js';", ""] = [] :=
    (kept_cons_notice rfl rfl (fun _ => rfl) _).trans (kept_lits (.cons rfl (.cons rfl .nil)) rfl)
  have hempty : kept declares
      (if xs.isEmpty then ["        // No fields defined"] else []) = [] := by
    split
    · exact kept_lits (.cons rfl .nil) rfl
    · rfl
  have hproperties : kept declares (xs.flatMap property) = [] := by
    rw [kept_flatMap fun x hx => kept_property (h.wellNamed x hx)]
    simp
  have hopen : kept declares ["    constructor() \x7b", "        super();"] = [] :=
    kept_lits (.cons rfl (.cons rfl .nil)) rfl
  have hclose : kept declares ["    \x7d", "\x7d"] = [] :=
    kept_lits (.cons rfl (.cons rfl .nil)) rfl
  unfold render
  simp only [kept_append, htop, kept_blockComment, kept_heading h, kept_fieldTable h.wellNamed,
    hopen, hempty, hproperties, hclose, List.nil_append, List.append_nil]

/-! ## What the rows tell -/

theorem heading_inj {m n : CommandModel} (h : heading m = heading n) :
    m.typeName = n.typeName ∧ m.commandName = n.commandName := by
  obtain ⟨hclass, hrest⟩ := List.cons.inj h
  exact ⟨around_inj hclass, around_inj (List.cons.inj hrest).1⟩

/-- The entry of a field tells its wire name and its shape. -/
theorem tableEntry_inj {x y : Member} (hx : javaScript.WellNamed x) (hy : javaScript.WellNamed y)
    (h : (tableEntry x).toList = (tableEntry y).toList) :
    x.field.wireName = y.field.wireName ∧ x.shape = y.shape := by
  unfold tableEntry at h
  simp only [String.toList_append, List.append_assoc] at h
  obtain ⟨hname, hrest⟩ := append_cons_inj (s := '\x27') (hx.isName_name.notMem (by decide))
    (hy.isName_name.notMem (by decide)) (List.append_cancel_left h)
  refine ⟨?_, ?_⟩
  · have hnames := String.toList_inj.1 hname
    rwa [hx.name_eq, hy.name_eq] at hnames
  · exact Shape.eq_of_nodup (f := fun s => ", type: \x27".toList ++ ((typeTag s.scalar).toList ++
      ("\x27, optional: ".toList ++ ((optionalTag s.optional).toList ++ " \x7d,".toList))))
      (by decide) hrest

/-- How JavaScript classes are read. -/
def reading : Reading javaScript where
  read rows := rows.filter declares
  front := heading
  back _ := []
  declaration x := [(tableEntry x).toList]
  width := 1
  width_pos := Nat.one_pos
  length_heading _ _ := by simp [heading]
  length_declaration _ := rfl
  isName_memberName _ h := h
  read_render h := by rw [List.append_nil]; exact kept_render h
  names_eq _ _ h _ := heading_inj h
  member_eq hx hy h := tableEntry_inj hx hy (List.cons.inj h).1

end CommandForge.Target.JavaScript
