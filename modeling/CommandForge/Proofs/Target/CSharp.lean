import CommandForge.Proofs.Target.Accepted
import CommandForge.Proofs.Target.DocLines
import CommandForge.Target.CSharp
/-!
# Reading C# classes

The class, its constructor, and the attribute and the property of each field stand on rows that no
summary comment starts like. The attribute tells the wire name and the property the shape, by its
type alone.
-/

namespace CommandForge.Target.CSharp

/-- The row declares the class or one of its members, or is an attribute. -/
def declares (row : List Char) : Bool :=
  opens 4 'p' row || opens 8 'p' row || opens 8 '[' row

variable {ns : String}

/-! ## Properties -/

theorem newline_notMem_xmlText {line : List Char} (h : '\n' ∉ line) : '\n' ∉ xmlText line :=
  Text.notMem_replaceAll (by decide) (Text.notMem_replaceAll (by decide)
    (Text.notMem_replaceAll (by decide) h))

/-- No summary passes when what its lines start with does not. -/
theorem kept_summary {indent : String} {cs : List Char} (h : indent = String.ofList cs)
    (hc : cs.contains '\n' = false) (hd : ∀ rest, declares (cs ++ '/' :: rest) = false)
    (docs : Option String) : kept declares (summary indent docs) = [] := by
  have hlit : ∀ {t : String} {ds : List Char}, t = String.ofList ('/' :: ds) →
      declares (indent ++ t).toList = false := by
    intro t ds ht
    rw [toList_lit (lit_append h ht), hd]
  unfold summary
  split
  · rfl
  · refine kept_eq_nil fun line hl => ?_
    simp only [List.mem_append, List.mem_singleton, List.mem_map] at hl
    rcases hl with (rfl | ⟨doc, hdoc, rfl⟩) | rfl
    · exact ⟨isLine_append.2 ⟨isLine_lit h hc, isLine_lit rfl rfl⟩, hlit rfl⟩
    · have hmark : indent ++ "/// " = String.ofList (cs ++ ['/', '/', '/', ' ']) :=
        lit_append h rfl
      have hn := newline_notMem_xmlText (newline_notMem_of_mem_docLines hdoc)
      refine ⟨isLine_append_ofList (isLine_append.2 ⟨isLine_lit h hc, isLine_lit rfl rfl⟩) hn, ?_⟩
      refine test_append hmark fun rest => ?_
      rw [List.append_assoc]
      exact hd _
    · exact ⟨isLine_append.2 ⟨isLine_lit h hc, isLine_lit rfl rfl⟩, hlit rfl⟩

/-- The row of a field's attribute. -/
def attributeRow (x : Member) : List Char :=
  ("        [JsonPropertyName(\"" ++ x.field.wireName ++ "\")]").toList

/-- The row of a field's property. -/
def propertyRow (x : Member) : List Char :=
  ("        public " ++ typeName x.shape ++ " " ++ x.name ++ " \x7b get; set; \x7d"
    ++ initializer x.shape).toList

theorem kept_property {x : Member} (h : (cSharp ns).WellNamed x) :
    kept declares (property x) = [attributeRow x, propertyRow x] := by
  have hname := isLine_of_isName h.isName_name
  have htype : IsLine (typeName x.shape) := by
    rcases x.shape with ⟨_ | _ | _, _ | _⟩ <;> exact isLine_lit rfl rfl
  have hinit : IsLine (initializer x.shape) := by
    rcases x.shape with ⟨_ | _ | _, _ | _⟩ <;> exact isLine_lit rfl rfl
  have hblank : kept declares [""] = [] := kept_lits (.cons rfl .nil) rfl
  unfold property
  rw [kept_append, kept_append, hblank, kept_summary rfl rfl fun _ => rfl, kept_cons_of_pos,
    kept_cons_of_pos]
  · rfl
  · refine isLine_append.2 ⟨isLine_around ?_ hname (isLine_lit rfl rfl), hinit⟩
    exact isLine_around (isLine_lit rfl rfl) htype (isLine_lit rfl rfl)
  · simp only [String.append_assoc]
    exact test_append rfl fun _ => rfl
  · exact isLine_named (isLine_lit rfl rfl) h.isName_wireName (isLine_lit rfl rfl)
  · exact test_around rfl fun _ => rfl

/-! ## The file -/

/-- The rows kept of those that name the namespace. -/
def preamble (ns : String) : List (List Char) := kept declares ["namespace " ++ ns, "\x7b"]

/-- The rows of the class and its constructor. -/
def heading (m : CommandModel) : List (List Char) :=
  [("    public class " ++ m.typeName ++ " : Command").toList,
    ("        public " ++ m.typeName ++ "() : base(\"" ++ m.commandName ++ "\")").toList]

theorem kept_render {m : CommandModel} {xs : List Member} (h : (cSharp ns).Accepts m xs) :
    kept declares (render ns m xs) =
      preamble ns ++ heading m ++ xs.flatMap fun x => [attributeRow x, propertyRow x] := by
  have hname := isLine_of_isName h.isName_commandName
  have hnotice : kept declares ["// " ++ generatedNotice, "#nullable enable", ""] = [] :=
    (kept_cons_notice rfl rfl (fun _ => rfl) _).trans (kept_lits (.cons rfl (.cons rfl .nil)) rfl)
  have husing : kept declares
      (if xs.isEmpty then [] else ["using System.Text.Json.Serialization;", ""]) = [] := by
    split
    · rfl
    · exact kept_lits (.cons rfl (.cons rfl .nil)) rfl
  have hheading : kept declares ["    public class " ++ m.typeName ++ " : Command", "    \x7b",
      "        public " ++ m.typeName ++ "() : base(\"" ++ m.commandName ++ "\")",
      "        \x7b", "        \x7d"] = heading m := by
    rw [kept_cons_of_pos, kept_cons_of_neg, kept_cons_of_pos,
      kept_lits (.cons rfl (.cons rfl .nil)) rfl, heading]
    · exact isLine_around (isLine_named (isLine_lit rfl rfl) h.isName_typeName (isLine_lit rfl rfl))
        hname (isLine_lit rfl rfl)
    · simp only [String.append_assoc]
      exact test_append rfl fun _ => rfl
    · exact isLine_lit rfl rfl
    · exact test_lit rfl rfl
    · exact isLine_named (isLine_lit rfl rfl) h.isName_typeName (isLine_lit rfl rfl)
    · exact test_around rfl fun _ => rfl
  have hclose : kept declares ["    \x7d", "\x7d"] = [] :=
    kept_lits (.cons rfl (.cons rfl .nil)) rfl
  unfold render
  rw [kept_append, kept_append, kept_append, kept_append, kept_append, kept_append, hnotice,
    husing, kept_summary rfl rfl fun _ => rfl, hheading,
    kept_flatMap fun x hx => kept_property (h.wellNamed x hx), hclose, List.append_nil,
    List.append_nil]
  rfl

/-! ## What the rows tell -/

theorem heading_inj {m n : CommandModel} (h : heading m = heading n) :
    m.typeName = n.typeName ∧ m.commandName = n.commandName := by
  obtain ⟨hclass, hrest⟩ := List.cons.inj h
  have htype := around_inj hclass
  rw [htype] at hrest
  exact ⟨htype, around_inj (List.cons.inj hrest).1⟩

theorem typeName_eq_of_propertyRow_eq {x y : Member} (h : propertyRow x = propertyRow y) :
    typeName x.shape = typeName y.shape := by
  have hblank : ∀ s : Shape, ' ' ∉ (typeName s).toList := by
    rintro ⟨_ | _ | _, _ | _⟩ <;> exact notMem_lit rfl rfl
  unfold propertyRow at h
  simp only [String.toList_append, List.append_assoc] at h
  obtain ⟨htype, -⟩ := append_cons_inj (s := ' ') (hblank x.shape) (hblank y.shape)
    (List.append_cancel_left h)
  exact String.toList_inj.1 htype

theorem member_inj {x y : Member}
    (h : [attributeRow x, propertyRow x] = [attributeRow y, propertyRow y]) :
    x.field.wireName = y.field.wireName ∧ x.shape = y.shape := by
  obtain ⟨hattribute, hproperty⟩ := List.cons.inj h
  refine ⟨around_inj hattribute, ?_⟩
  exact Shape.eq_of_nodup (f := typeName) (by decide)
    (typeName_eq_of_propertyRow_eq (List.cons.inj hproperty).1)

/-- How C# classes are read. -/
def reading (ns : String) : Reading (cSharp ns) where
  read rows := rows.filter declares
  front m := preamble ns ++ heading m
  back _ := []
  declaration x := [attributeRow x, propertyRow x]
  width := 2
  width_pos := Nat.two_pos
  length_heading _ _ := by simp [heading]
  length_declaration _ := rfl
  isName_memberName _ h := Identifier.isName_pascal h
  read_render h := by rw [List.append_nil]; exact kept_render h
  names_eq _ _ h _ := heading_inj (List.append_cancel_left h)
  member_eq _ _ h := member_inj h

end CommandForge.Target.CSharp
