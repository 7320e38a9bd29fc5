import CommandForge.Proofs.Target.Accepted
import CommandForge.Proofs.Target.DocLines
import CommandForge.Target.Java
/-!
# Reading Java classes

The class, its constants and fields, and the annotations stand on rows that no documentation
comment starts like; a constant or a field ends in a semicolon and a method in a brace. The
annotation tells the wire name. Strings have one type, so the shape takes the value that a field
starts with as well.
-/

namespace CommandForge.Target.Java

/-- The row declares the class, a constant or a field, or is an annotation. -/
def declares (row : List Char) : Bool :=
  opens 0 'p' row || opens 4 '@' row || (opens 4 'p' row && endsIn ';' row)

variable {package : String}

/-- The end of a row that starts like a member decides. -/
theorem declares_append {s t : String} {cs : List Char} {b : Bool}
    (hs : opens 4 'p' (s ++ t).toList = true) (ht : t = String.ofList cs)
    (hne : cs.isEmpty = false) (hb : endsIn ';' cs = b) : declares (s ++ t).toList = b := by
  have hend : endsIn ';' (s ++ t).toList = b := endsIn_append ht hne hb
  obtain ⟨rest, hrow⟩ := List.isPrefixOf_iff_prefix.1 hs
  rw [declares, hend, ← hrow]
  rfl

/-! ## Comments -/

theorem newline_notMem_javadocText {line : List Char} (h : '\n' ∉ line) :
    '\n' ∉ javadocText line :=
  Text.notMem_replaceAll (by decide) (Text.notMem_replaceAll (by decide) h)

/-- No comment passes when what its lines start with does not. -/
theorem kept_javadoc {indent : String} {cs : List Char} (h : indent = String.ofList cs)
    (hc : cs.contains '\n' = false) (hopen : ∀ rest, declares (cs ++ '/' :: rest) = false)
    (hline : ∀ rest, declares (cs ++ ' ' :: '*' :: rest) = false) (docs : Option String) :
    kept declares (javadoc indent docs) = [] := by
  have hi : IsLine indent := isLine_lit h hc
  have hmark : ∀ rest, declares (cs ++ [' ', '*'] ++ rest) = false := by
    intro rest
    rw [List.append_assoc]
    exact hline rest
  unfold javadoc
  split
  · rfl
  · refine kept_eq_nil fun line hl => ?_
    simp only [List.mem_append, List.mem_singleton, List.mem_map] at hl
    rcases hl with (rfl | ⟨doc, hdoc, rfl⟩) | rfl
    · exact ⟨isLine_append.2 ⟨hi, isLine_lit rfl rfl⟩, test_lit (lit_append h rfl) (hopen _)⟩
    · have hn := newline_notMem_javadocText (newline_notMem_of_mem_docLines hdoc)
      exact ⟨isLine_marked (isLine_append.2 ⟨hi, isLine_lit rfl rfl⟩) hn,
        test_marked (lit_append h rfl) hmark⟩
    · exact ⟨isLine_append.2 ⟨hi, isLine_lit rfl rfl⟩, test_lit (lit_append h rfl) (hline _)⟩

/-! ## Fields and methods -/

theorem isLine_typeName (shape : Shape) : IsLine (typeName shape) := by
  rcases shape with ⟨_ | _ | _, _ | _⟩ <;> exact isLine_lit rfl rfl

/-- The row of a field's annotation. -/
def annotationRow (x : Member) : List Char :=
  ("    @SerializedName(\"" ++ x.field.wireName ++ "\")").toList

/-- The row of a field. -/
def fieldRow (x : Member) : List Char :=
  ("    private " ++ typeName x.shape ++ " " ++ x.name ++ " = " ++ defaultValue x.shape
    ++ ";").toList

theorem kept_fieldLines {x : Member} (h : (java package).WellNamed x) :
    kept declares (fieldLines x) = [annotationRow x, fieldRow x] := by
  have hname := isLine_of_isName h.isName_name
  have htype := isLine_typeName x.shape
  have hdefault : IsLine (defaultValue x.shape) := by
    rcases x.shape with ⟨_ | _ | _, _ | _⟩ <;> exact isLine_lit rfl rfl
  have hblank : kept declares [""] = [] := kept_lits (.cons rfl .nil) rfl
  unfold fieldLines
  rw [kept_append, kept_append, hblank, kept_javadoc rfl rfl (fun _ => rfl) fun _ => rfl,
    kept_cons_of_pos, kept_cons_of_pos]
  · rfl
  · refine isLine_around (isLine_around ?_ hname (isLine_lit rfl rfl)) hdefault (isLine_lit rfl rfl)
    exact isLine_around (isLine_lit rfl rfl) htype (isLine_lit rfl rfl)
  · refine declares_append ?_ rfl rfl rfl
    simp only [String.append_assoc]
    exact test_append rfl fun _ => rfl
  · exact isLine_named (isLine_lit rfl rfl) h.isName_wireName (isLine_lit rfl rfl)
  · exact test_around rfl fun _ => rfl

theorem kept_accessors {x : Member} (h : (java package).WellNamed x) :
    kept declares (accessors x) = [] := by
  have hname := isLine_of_isName h.isName_name
  have htype := isLine_typeName x.shape
  have haccessor : IsLine (accessorName x) :=
    isLine_of_isName (Identifier.isName_pascal h.isName_name)
  refine kept_eq_nil fun line hl => ?_
  unfold accessors at hl
  simp only [List.mem_cons, List.not_mem_nil, or_false] at hl
  rcases hl with rfl | rfl | rfl | rfl | rfl | rfl | rfl | rfl
  · exact ⟨isLine_lit rfl rfl, test_lit rfl rfl⟩
  · refine ⟨isLine_around ?_ haccessor (isLine_lit rfl rfl), declares_append ?_ rfl rfl rfl⟩
    · exact isLine_around (isLine_lit rfl rfl) htype (isLine_lit rfl rfl)
    · simp only [String.append_assoc]
      exact test_append rfl fun _ => rfl
  · exact ⟨isLine_around (isLine_lit rfl rfl) hname (isLine_lit rfl rfl),
      test_around rfl fun _ => rfl⟩
  · exact ⟨isLine_lit rfl rfl, test_lit rfl rfl⟩
  · exact ⟨isLine_lit rfl rfl, test_lit rfl rfl⟩
  · refine ⟨isLine_around (isLine_around ?_ htype (isLine_lit rfl rfl)) hname (isLine_lit rfl rfl),
      declares_append ?_ rfl rfl rfl⟩
    · exact isLine_around (isLine_lit rfl rfl) haccessor (isLine_lit rfl rfl)
    · simp only [String.append_assoc]
      exact test_append rfl fun _ => rfl
  · refine ⟨isLine_around ?_ hname (isLine_lit rfl rfl), ?_⟩
    · exact isLine_around (isLine_lit rfl rfl) hname (isLine_lit rfl rfl)
    · simp only [String.append_assoc]
      exact test_append rfl fun _ => rfl
  · exact ⟨isLine_lit rfl rfl, test_lit rfl rfl⟩

/-! ## The file -/

/-- The rows kept of what stands above the imports, where the package is named. -/
def preamble (package : String) : List (List Char) :=
  kept declares ["// " ++ generatedNotice, "package " ++ package ++ ";", ""]

/-- The rows of the class and its command name. -/
def heading (m : CommandModel) : List (List Char) :=
  [("public class " ++ m.typeName ++ " extends Command \x7b").toList,
    ("    public static final String COMMAND_NAME = \"" ++ m.commandName ++ "\";").toList]

theorem kept_heading {m : CommandModel} {xs : List Member} (h : (java package).Accepts m xs) :
    kept declares ["public class " ++ m.typeName ++ " extends Command \x7b",
      "    public static final String COMMAND_NAME = " ++ stringLiteral m.commandName ++ ";"] =
        heading m := by
  have hconstant : "    public static final String COMMAND_NAME = " ++ stringLiteral m.commandName
      ++ ";" = "    public static final String COMMAND_NAME = \"" ++ m.commandName ++ "\";" := by
    have hbefore : "    public static final String COMMAND_NAME = \"" =
        "    public static final String COMMAND_NAME = " ++ "\"" := rfl
    have hbehind : "\";" = "\"" ++ ";" := rfl
    rw [stringLiteral_of_isName h.isName_commandName, hbefore, hbehind]
    simp only [String.append_assoc]
  rw [hconstant, kept_cons_of_pos, kept_cons_of_pos]
  · rfl
  · exact isLine_named (isLine_lit rfl rfl) h.isName_commandName (isLine_lit rfl rfl)
  · exact declares_append (test_around rfl fun _ => rfl) rfl rfl rfl
  · exact isLine_named (isLine_lit rfl rfl) h.isName_typeName (isLine_lit rfl rfl)
  · exact test_around rfl fun _ => rfl

/-- The constructor and the decoder are methods, so nothing is kept of them. -/
theorem kept_methods {m : CommandModel} {xs : List Member} (h : (java package).Accepts m xs) :
    kept declares ["",
      "    public " ++ m.typeName ++ "() \x7b",
      "        super(COMMAND_NAME);",
      "    \x7d",
      "",
      "    public static " ++ m.typeName ++ " fromJson(String json) \x7b",
      "        return decode(json, " ++ m.typeName ++ ".class);",
      "    \x7d"] = [] := by
  have htype := isLine_of_isName h.isName_typeName
  refine kept_eq_nil fun line hl => ?_
  simp only [List.mem_cons, List.not_mem_nil, or_false] at hl
  rcases hl with rfl | rfl | rfl | rfl | rfl | rfl | rfl | rfl
  · exact ⟨isLine_lit rfl rfl, test_lit rfl rfl⟩
  · exact ⟨isLine_around (isLine_lit rfl rfl) htype (isLine_lit rfl rfl),
      declares_append (test_around rfl fun _ => rfl) rfl rfl rfl⟩
  · exact ⟨isLine_lit rfl rfl, test_lit rfl rfl⟩
  · exact ⟨isLine_lit rfl rfl, test_lit rfl rfl⟩
  · exact ⟨isLine_lit rfl rfl, test_lit rfl rfl⟩
  · exact ⟨isLine_around (isLine_lit rfl rfl) htype (isLine_lit rfl rfl),
      declares_append (test_around rfl fun _ => rfl) rfl rfl rfl⟩
  · exact ⟨isLine_around (isLine_lit rfl rfl) htype (isLine_lit rfl rfl),
      test_around rfl fun _ => rfl⟩
  · exact ⟨isLine_lit rfl rfl, test_lit rfl rfl⟩

theorem kept_render {m : CommandModel} {xs : List Member} (h : (java package).Accepts m xs) :
    kept declares (render package m xs) =
      preamble package ++ heading m ++ xs.flatMap fun x => [annotationRow x, fieldRow x] := by
  have himport : kept declares (if xs.isEmpty then []
      else ["import com.google.gson.annotations.SerializedName;", ""]) = [] := by
    split
    · rfl
    · exact kept_lits (.cons rfl (.cons rfl .nil)) rfl
  have haccessors : kept declares (xs.flatMap accessors) = [] := by
    rw [kept_flatMap fun x hx => kept_accessors (h.wellNamed x hx)]
    simp
  have hclose : kept declares ["\x7d"] = [] := kept_lits (.cons rfl .nil) rfl
  unfold render
  rw [kept_append, kept_append, kept_append, kept_append, kept_append, kept_append, kept_append,
    himport, kept_javadoc rfl rfl (fun _ => rfl) fun _ => rfl, kept_heading h,
    kept_flatMap fun x hx => kept_fieldLines (h.wellNamed x hx), kept_methods h, haccessors, hclose]
  simp only [List.append_nil]
  rfl

/-! ## What the rows tell -/

theorem heading_inj {m n : CommandModel} (h : heading m = heading n) :
    m.typeName = n.typeName ∧ m.commandName = n.commandName := by
  obtain ⟨hclass, hrest⟩ := List.cons.inj h
  exact ⟨around_inj hclass, around_inj (List.cons.inj hrest).1⟩

/-- The row of a field tells its type and, given its name, what it starts with. -/
theorem typeName_eq_of_fieldRow_eq {x y : Member} (hname : x.name = y.name)
    (h : fieldRow x = fieldRow y) :
    (typeName x.shape, defaultValue x.shape) = (typeName y.shape, defaultValue y.shape) := by
  have hblank : ∀ s : Shape, ' ' ∉ (typeName s).toList := by
    rintro ⟨_ | _ | _, _ | _⟩ <;> exact notMem_lit rfl rfl
  unfold fieldRow at h
  simp only [String.toList_append, List.append_assoc] at h
  obtain ⟨htype, hrest⟩ := append_cons_inj (s := ' ') (hblank x.shape) (hblank y.shape)
    (List.append_cancel_left h)
  have hbehind : (y.name ++ " = " ++ defaultValue x.shape ++ ";").toList =
      (y.name ++ " = " ++ defaultValue y.shape ++ ";").toList := by
    rw [hname] at hrest
    simp only [String.toList_append, List.append_assoc]
    exact hrest
  rw [String.toList_inj.1 htype, around_inj hbehind]

theorem member_inj {x y : Member} (hx : (java package).WellNamed x)
    (hy : (java package).WellNamed y)
    (h : [annotationRow x, fieldRow x] = [annotationRow y, fieldRow y]) :
    x.field.wireName = y.field.wireName ∧ x.shape = y.shape := by
  obtain ⟨hattribute, hfield⟩ := List.cons.inj h
  have hwire : x.field.wireName = y.field.wireName := around_inj hattribute
  have hname : x.name = y.name := by rw [hx.name_eq, hy.name_eq, hwire]
  refine ⟨hwire, ?_⟩
  exact Shape.eq_of_nodup (f := fun s => (typeName s, defaultValue s)) (by decide)
    (typeName_eq_of_fieldRow_eq hname (List.cons.inj hfield).1)

/-- How Java classes are read. -/
def reading (package : String) : Reading (java package) where
  read rows := rows.filter declares
  front m := preamble package ++ heading m
  back _ := []
  declaration x := [annotationRow x, fieldRow x]
  width := 2
  width_pos := Nat.two_pos
  length_heading _ _ := by simp [heading]
  length_declaration _ := rfl
  isName_memberName _ h := Identifier.isName_camel h
  read_render h := by rw [List.append_nil]; exact kept_render h
  names_eq _ _ h _ := heading_inj (List.append_cancel_left h)
  member_eq hx hy h := member_inj hx hy h

end CommandForge.Target.Java
