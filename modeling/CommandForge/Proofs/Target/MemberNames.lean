import CommandForge.Proofs.Target.Declarations
import CommandForge.Proofs.Target.Members
import CommandForge.Target.CSharp
import CommandForge.Target.Java
/-!
# Members named by joined words

C# and Java name members by joining the words of their wire names, and neither looks for two members
of one name. What their classes declare is read off the lines of the file
(`CSharp.declarations_render`, `Java.declarations_render`); since different normalized names stay
different when their words are joined, so do the properties, the fields, and the getters and
setters, whose names join the words of a name that has been joined before. None takes the name of
the class in C#, and none hides the getter of the command name or that of the class in Java
(`member_names_distinct`).
-/

namespace CommandForge

open Identifier (IsName isName_lit IsSnake camel pascal normalize)

namespace Target

/-- Joined words are not empty, and neither is what they are joined from. -/
theorem ne_empty_of_pascal {w : String} (h : IsSnake w.toList) : pascal w ≠ "" := by
  intro he
  have hunjoin := Identifier.unjoin_pascal h
  rw [he] at hunjoin
  cases hunjoin

theorem ne_empty_of_camel {w : String} (h : IsSnake w.toList) : camel w ≠ "" := by
  intro he
  have hpascal := Identifier.pascal_camel h
  rw [he] at hpascal
  exact ne_empty_of_pascal h hpascal.symm

/-! ## C# -/

namespace CSharp

variable {ns : String} {m : CommandModel} {xs : List Member}

theorem declarations_summary {s : String} {cs : List Char} (hs : s = String.ofList cs)
    (hcs : opensNothing 8 (cs ++ ['/']) = true) (docs : Option String) :
    declarations 8 (summary s docs) = [] := by
  have hopen : declaration? 8 (s ++ "/// <summary>").toList = none :=
    declaration?_mark_eq_none (x := "/") (t := "// <summary>") hs rfl rfl hcs
  have hclose : declaration? 8 (s ++ "/// </summary>").toList = none :=
    declaration?_mark_eq_none (x := "/") (t := "// </summary>") hs rfl rfl hcs
  have hline : ∀ t, declaration? 8 (s ++ "/// " ++ t).toList = none := by
    intro t
    have hmark : "/// " ++ t = "/" ++ ("// " ++ t) := by
      have hlit : "/// " = "/" ++ "// " := rfl
      rw [hlit, String.append_assoc]
    rw [String.append_assoc]
    exact declaration?_mark_eq_none hs hmark rfl hcs
  unfold summary
  split
  · rfl
  · rw [declarations_append, declarations_append, declarations_cons_of_none hopen,
      declarations_map_eq_nil fun _ => hline _, declarations_cons_of_none hclose]
    rfl

theorem declarations_property {x : Member} (hx : IsName x.name) (hne : x.name ≠ "") :
    declarations 8 (property x) = [⟨x.name, false⟩] := by
  have hopens :
      opensDeclaration 8 ("        public " ++ typeName x.shape ++ " ").toList = true := by
    rcases x.shape with ⟨_ | _ | _, _ | _⟩
    all_goals exact test_lit (lit_append (lit_append rfl rfl) rfl) rfl
  have hcloses : closesDeclaration false
      (" \x7b get; set; \x7d" ++ initializer x.shape).toList = true :=
    closesDeclaration_append (test_lit rfl rfl)
  have hblank : declarations 8 [""] = [] := rfl
  have hdocs := declarations_summary (s := "        ") rfl rfl x.field.docs
  rw [property, declarations_append, declarations_append, hblank, hdocs,
    declarations_cons_around rfl (by rfl), declarations_cons_of_some, declarations_nil]
  · rfl
  · rw [String.append_assoc]
    exact declaration?_eq_some hopens hx hne hcloses

theorem declarations_head {name : String} (hname : IsName name) (hne : name ≠ "")
    (commandName : String) :
    declarations 8 ["    public class " ++ name ++ " : Command", "    \x7b",
      "        public " ++ name ++ "() : base(\"" ++ commandName ++ "\")", "        \x7b",
      "        \x7d"] = [⟨name, true⟩] := by
  have hconstructor : declaration? 8
      ("        public " ++ name ++ "() : base(\"" ++ commandName ++ "\")").toList =
        some ⟨name, true⟩ := by
    rw [String.append_assoc, String.append_assoc]
    exact declaration?_eq_some (test_lit rfl rfl) hname hne
      (closesDeclaration_append (test_lit rfl rfl))
  rw [declarations_cons_around rfl (by rfl), declarations_cons_lit rfl (by rfl),
    declarations_cons_of_some hconstructor, declarations_cons_lit rfl (by rfl),
    declarations_cons_lit rfl (by rfl), declarations_nil]

/-- A class declares its constructor and a property for each member. -/
theorem declarations_render (h : (cSharp ns).Emits m xs) :
    declarations 8 (render ns m xs) =
      ⟨m.typeName, true⟩ :: xs.map fun x => ⟨x.name, false⟩ := by
  have hnotice : declarations 8 ["// " ++ generatedNotice, "#nullable enable", ""] = [] := by
    rw [declarations_cons_append rfl (by rfl), declarations_cons_lit rfl (by rfl)]
    rfl
  have husing : declarations 8
      (if xs.isEmpty then [] else ["using System.Text.Json.Serialization;", ""]) = [] := by
    split
    · rfl
    · rw [declarations_cons_lit rfl (by rfl)]
      rfl
  have hnamespace : declarations 8 ["namespace " ++ ns, "\x7b"] = [] := by
    rw [declarations_cons_append rfl (by rfl), declarations_cons_lit rfl (by rfl),
      declarations_nil]
  have hdocs := declarations_summary (s := "    ") rfl rfl m.docs
  have hhead := declarations_head h.isName_typeName h.typeName_ne_empty m.commandName
  have hproperties : declarations 8 (xs.flatMap property) =
      xs.map fun x => ⟨x.name, false⟩ := by
    rw [List.map_eq_flatMap]
    refine declarations_flatMap fun x hx => ?_
    have hwell := h.wellNamed x hx
    exact declarations_property hwell.isName_name
      (hwell.name_eq ▸ ne_empty_of_pascal (h.isSnake x hx))
  have hend : declarations 8 ["    \x7d", "\x7d"] = [] :=
    declarations_lits (.cons rfl (.cons rfl .nil)) rfl
  rw [render, declarations_append, declarations_append, declarations_append, declarations_append,
    declarations_append, declarations_append, hnotice, husing, hnamespace, hdocs, hhead,
    hproperties, hend, List.append_nil]
  rfl

end CSharp

/-! ## Java -/

namespace Java

variable {package : String} {m : CommandModel} {xs : List Member}

theorem declarations_javadoc {s : String} {cs : List Char} (hs : s = String.ofList cs)
    (hopen : opensNothing 4 (cs ++ ['/']) = true) (hline : opensNothing 4 (cs ++ [' ', '*']) = true)
    (docs : Option String) : declarations 4 (javadoc s docs) = [] := by
  have hfirst : declaration? 4 (s ++ "/**").toList = none :=
    declaration?_mark_eq_none (x := "/") (t := "**") hs rfl rfl hopen
  have hlast : declaration? 4 (s ++ " */").toList = none :=
    declaration?_mark_eq_none (x := " *") (t := "/") hs rfl rfl hline
  have hstar : s ++ " *" = String.ofList (cs ++ [' ', '*']) := lit_append hs rfl
  unfold javadoc
  split
  · rfl
  · rw [declarations_append, declarations_append, declarations_cons_of_none hfirst,
      declarations_map_eq_nil fun _ => declaration?_marked_eq_none hstar hline _,
      declarations_cons_of_none hlast]
    rfl

theorem declarations_fieldLines {x : Member} (hx : IsName x.name) (hne : x.name ≠ "") :
    declarations 4 (fieldLines x) = [⟨x.name, false⟩] := by
  have hopens : opensDeclaration 4 ("    private " ++ typeName x.shape ++ " ").toList = true := by
    rcases x.shape with ⟨_ | _ | _, _ | _⟩
    all_goals exact test_lit (lit_append (lit_append rfl rfl) rfl) rfl
  have hfield : declaration? 4 ("    private " ++ typeName x.shape ++ " " ++ x.name ++ " = "
      ++ defaultValue x.shape ++ ";").toList = some ⟨x.name, false⟩ := by
    rw [String.append_assoc, String.append_assoc]
    exact declaration?_eq_some hopens hx hne (closesDeclaration_append (test_lit rfl rfl))
  have hblank : declarations 4 [""] = [] := rfl
  have hdocs := declarations_javadoc (s := "    ") rfl rfl rfl x.field.docs
  rw [fieldLines, declarations_append, declarations_append, hblank, hdocs,
    declarations_cons_around rfl (by rfl), declarations_cons_of_some hfield, declarations_nil]
  rfl

/-- The names of the getter and the setter for a name with joined words. -/
def accessorsOf (name : String) : List String := ["get" ++ name, "set" ++ name]

theorem declarations_accessors {x : Member} (hx : IsName x.name) :
    declarations 4 (accessors x) = (accessorsOf (accessorName x)).map fun n => ⟨n, true⟩ := by
  have haccessor : IsName (accessorName x) := Identifier.isName_pascal hx
  have hget : IsName ("get" ++ accessorName x) := (isName_lit rfl rfl).append haccessor
  have hset : IsName ("set" ++ accessorName x) := (isName_lit rfl rfl).append haccessor
  have hopens : opensDeclaration 4 ("    public " ++ typeName x.shape ++ " ").toList = true := by
    rcases x.shape with ⟨_ | _ | _, _ | _⟩
    all_goals exact test_lit (lit_append (lit_append rfl rfl) rfl) rfl
  have hgetter : declaration? 4 ("    public " ++ typeName x.shape ++ " get" ++ accessorName x
      ++ "() \x7b").toList = some ⟨"get" ++ accessorName x, true⟩ := by
    have hline : "    public " ++ typeName x.shape ++ " get" ++ accessorName x ++ "() \x7b" =
        "    public " ++ typeName x.shape ++ " " ++ ("get" ++ accessorName x) ++ "() \x7b" := by
      have hword : " get" = " " ++ "get" := rfl
      rw [hword]
      simp only [String.append_assoc]
    rw [hline]
    exact declaration?_eq_some hopens hget (by simp) (test_lit rfl rfl)
  have hsetter : declaration? 4 ("    public void set" ++ accessorName x ++ "("
      ++ typeName x.shape ++ " " ++ x.name ++ ") \x7b").toList =
        some ⟨"set" ++ accessorName x, true⟩ := by
    have hline : "    public void set" ++ accessorName x ++ "(" ++ typeName x.shape ++ " " ++ x.name
        ++ ") \x7b" = "    public void " ++ ("set" ++ accessorName x) ++ ("(" ++ (typeName x.shape
          ++ " " ++ x.name ++ ") \x7b")) := by
      have hword : "    public void set" = "    public void " ++ "set" := rfl
      rw [hword]
      simp only [String.append_assoc]
    rw [hline]
    exact declaration?_eq_some (test_lit rfl rfl) hset (by simp)
      (closesDeclaration_append (test_lit rfl rfl))
  have hassignment : declaration? 4
      ("        this." ++ x.name ++ " = " ++ x.name ++ ";").toList = none := by
    rw [String.append_assoc, String.append_assoc, String.append_assoc]
    exact declaration?_append_eq_none rfl rfl
  rw [accessors, declarations_cons_of_none rfl, declarations_cons_of_some hgetter,
    declarations_cons_around rfl (by rfl), declarations_cons_lit rfl (by rfl),
    declarations_cons_of_none rfl, declarations_cons_of_some hsetter,
    declarations_cons_of_none hassignment, declarations_cons_lit rfl (by rfl), declarations_nil]
  rfl

theorem declarations_head (name commandName : String) :
    declarations 4 ["public class " ++ name ++ " extends Command \x7b",
      "    public static final String COMMAND_NAME = " ++ stringLiteral commandName ++ ";"] =
        [⟨"COMMAND_NAME", false⟩] := by
  have hconstant : declaration? 4
      ("    public static final String COMMAND_NAME = " ++ stringLiteral commandName
        ++ ";").toList = some ⟨"COMMAND_NAME", false⟩ := by
    rw [String.append_assoc]
    exact declaration?_literal (s := "    public static final String ") (x := "COMMAND_NAME")
      (t := " = ") rfl (test_lit rfl rfl) (isName_lit rfl rfl) (by decide) (test_lit rfl rfl)
  rw [declarations_cons_around rfl (by rfl), declarations_cons_of_some hconstant, declarations_nil]

theorem declarations_methods {name : String} (hname : IsName name) (hne : name ≠ "") :
    declarations 4 ["",
      "    public " ++ name ++ "() \x7b",
      "        super(COMMAND_NAME);",
      "    \x7d",
      "",
      "    public static " ++ name ++ " fromJson(String json) \x7b",
      "        return decode(json, " ++ name ++ ".class);",
      "    \x7d"] = [⟨name, true⟩, ⟨"fromJson", true⟩] := by
  have hconstructor : declaration? 4 ("    public " ++ name ++ "() \x7b").toList =
      some ⟨name, true⟩ :=
    declaration?_eq_some (test_lit rfl rfl) hname hne (test_lit rfl rfl)
  have hdecoder : declaration? 4
      ("    public static " ++ name ++ " fromJson(String json) \x7b").toList =
        some ⟨"fromJson", true⟩ :=
    declaration?_behind (s := " ") (x := "fromJson") (t := "(String json) \x7b") rfl
      (test_lit rfl rfl) hname hne (by decide) (by decide) (isName_lit rfl rfl) (by decide)
      (test_lit rfl rfl)
  rw [declarations_cons_of_none rfl, declarations_cons_of_some hconstructor,
    declarations_cons_lit rfl (by rfl), declarations_cons_lit rfl (by rfl),
    declarations_cons_of_none rfl, declarations_cons_of_some hdecoder,
    declarations_cons_around rfl (by rfl), declarations_cons_lit rfl (by rfl), declarations_nil]

/-- A class declares its command name and a field for each member, then its constructor and decoder,
and a getter and a setter for each member. -/
theorem declarations_render (h : (java package).Emits m xs) :
    declarations 4 (render package m xs) =
      ⟨"COMMAND_NAME", false⟩ :: xs.map (fun x => ⟨x.name, false⟩)
        ++ [⟨m.typeName, true⟩, ⟨"fromJson", true⟩]
        ++ xs.flatMap fun x => (accessorsOf (accessorName x)).map fun n => ⟨n, true⟩ := by
  have hname : ∀ x ∈ xs, IsName x.name ∧ x.name ≠ "" := by
    intro x hx
    have hwell := h.wellNamed x hx
    exact ⟨hwell.isName_name, hwell.name_eq ▸ ne_empty_of_camel (h.isSnake x hx)⟩
  have hpackage : declarations 4 ["// " ++ generatedNotice, "package " ++ package ++ ";", ""] =
      [] := by
    rw [declarations_cons_append rfl (by rfl), declarations_cons_around rfl (by rfl)]
    rfl
  have himport : declarations 4 (if xs.isEmpty then []
      else ["import com.google.gson.annotations.SerializedName;", ""]) = [] := by
    split
    · rfl
    · rw [declarations_cons_lit rfl (by rfl)]
      rfl
  have hdocs := declarations_javadoc (s := "") String.ofList_nil.symm rfl rfl m.docs
  have hmethods := declarations_methods h.isName_typeName h.typeName_ne_empty
  have hfields : declarations 4 (xs.flatMap fieldLines) = xs.map fun x => ⟨x.name, false⟩ := by
    rw [List.map_eq_flatMap]
    exact declarations_flatMap fun x hx =>
      declarations_fieldLines (hname x hx).1 (hname x hx).2
  have haccessors := declarations_flatMap fun x hx => declarations_accessors (hname x hx).1
  have hend : declarations 4 ["\x7d"] = [] := declarations_lits (.cons rfl .nil) rfl
  rw [render, declarations_append, declarations_append, declarations_append, declarations_append,
    declarations_append, declarations_append, declarations_append, hpackage, himport, hdocs,
    declarations_head, hfields, hmethods, haccessors, hend, List.append_nil]
  rfl

/-! ### Accessors -/

theorem get_ne_set (name name' : String) : "get" ++ name ≠ "set" ++ name' := by
  intro he
  have hchars := congrArg String.toList he
  rw [String.toList_append, String.toList_append] at hchars
  exact absurd (List.cons.inj hchars).1 (by decide)

theorem get_mem_accessorsOf {name name' : String} :
    "get" ++ name ∈ accessorsOf name' ↔ name = name' := by
  simp [accessorsOf, get_ne_set, String.append_right_inj]

theorem set_mem_accessorsOf {name name' : String} :
    "set" ++ name ∈ accessorsOf name' ↔ name = name' := by
  simp [accessorsOf, (get_ne_set name' name).symm, String.append_right_inj]

/-- Different names have different getters and setters. -/
theorem nodup_accessorsOf {names : List String} (h : names.Nodup) :
    (names.flatMap accessorsOf).Nodup := by
  refine List.nodup_flatMap.2 ⟨fun name _ => ?_,
    h.imp fun {name name'} hne accessor hmem hmem' => ?_⟩
  · simp [accessorsOf]
  · simp only [accessorsOf, List.mem_cons, List.not_mem_nil, or_false] at hmem
    rcases hmem with rfl | rfl
    · exact hne (get_mem_accessorsOf.1 hmem')
    · exact hne (set_mem_accessorsOf.1 hmem')

theorem get_mem_flatMap_accessorsOf {name : String} {names : List String} :
    "get" ++ name ∈ names.flatMap accessorsOf ↔ name ∈ names := by
  simp [get_mem_accessorsOf]

end Java

/-! ## Distinct names -/

/-- The class declares a property for each field, and no two of one name, nor one of its own. -/
structure CSharp.NamesDistinct (m : CommandModel) (ds : List Declaration) : Prop where
  properties : dataNames ds = m.fields.map fun f => pascal f.wireName
  nodup : (dataNames ds).Nodup
  typeName_notMem : m.typeName ∉ dataNames ds

theorem CSharp.namesDistinct {ns : String} {m : CommandModel} {xs : List Member}
    (h : (cSharp ns).Emits m xs) : NamesDistinct m (declarations 8 (render ns m xs)) := by
  have hdata : dataNames (declarations 8 (render ns m xs)) = xs.map (·.name) := by
    rw [declarations_render h, ← List.singleton_append, dataNames_append, dataNames_data]
    rfl
  refine ⟨hdata.trans h.map_name_eq, ?_, ?_⟩
  · rw [hdata]
    exact h.nodup_names Identifier.pascal_injective
  · rw [hdata]
    intro hmem
    obtain ⟨x, hx, hname⟩ := List.mem_map.1 hmem
    exact h.name_ne_typeName rfl x hx hname

/-- The class declares a field, a getter and a setter for each field of the command, no two of one
name; the getters of the command name and of the class are not among them. -/
structure Java.NamesDistinct (m : CommandModel) (ds : List Declaration) : Prop where
  fields : dataNames ds = "COMMAND_NAME" :: m.fields.map fun f => camel f.wireName
  nodup_fields : (dataNames ds).Nodup
  methods : functionNames ds = m.typeName :: "fromJson" ::
    m.fields.flatMap fun f => accessorsOf (pascal f.wireName)
  nodup_accessors : (m.fields.flatMap fun f => accessorsOf (pascal f.wireName)).Nodup
  getCommandName_notMem :
    "getCommandName" ∉ m.fields.flatMap fun f => accessorsOf (pascal f.wireName)
  getClass_notMem : "getClass" ∉ m.fields.flatMap fun f => accessorsOf (pascal f.wireName)

namespace Java

variable {package : String} {m : CommandModel} {xs : List Member} (h : (java package).Emits m xs)

include h

theorem accessorName_eq {x : Member} (hx : x ∈ xs) : accessorName x = pascal x.field.wireName := by
  rw [accessorName, (h.wellNamed x hx).name_eq]
  exact Identifier.pascal_camel (h.isSnake x hx)

theorem commandName_notMem : "CommandName" ∉ xs.map fun x => pascal x.field.wireName := by
  intro hmem
  obtain ⟨x, hx, hjoined⟩ := List.mem_map.1 hmem
  have hkey : IsSnake commandNameKey.toList :=
    Identifier.isSnake_of_normalize (s := "commandName") (by decide +kernel)
  have hpascal : pascal commandNameKey = "CommandName" := by decide +kernel
  exact h.wireName_ne x hx
    (Identifier.pascal_injective (h.isSnake x hx) hkey (hjoined.trans hpascal.symm))

theorem class_notMem : "Class" ∉ xs.map fun x => pascal x.field.wireName := by
  intro hmem
  obtain ⟨x, hx, hjoined⟩ := List.mem_map.1 hmem
  have hclass : IsSnake "class".toList :=
    Identifier.isSnake_of_normalize (s := "class") (by decide +kernel)
  have hpascal : pascal "class" = "Class" := by decide +kernel
  have hwire : x.field.wireName = "class" :=
    Identifier.pascal_injective (h.isSnake x hx) hclass (hjoined.trans hpascal.symm)
  have hname : x.name = camel "class" := hwire ▸ (h.wellNamed x hx).name_eq
  have hkept : camel "class" ∈ reserved := by decide +kernel
  exact h.name_allowed x hx (hname ▸ hkept)

theorem constant_notMem : "COMMAND_NAME" ∉ xs.map (·.name) := by
  intro hmem
  obtain ⟨x, hx, hname⟩ := List.mem_map.1 hmem
  have hsnake := h.isSnake x hx
  have hunjoin := Identifier.unjoin_camel hsnake
  have hcamel : camel x.field.wireName = "COMMAND_NAME" :=
    (h.wellNamed x hx).name_eq.symm.trans hname
  obtain ⟨c, tail, hwire, hc, -⟩ := hsnake
  rw [hcamel, hwire] at hunjoin
  have hfirst : c = '_' := (List.cons.inj hunjoin).1.symm
  rw [hfirst] at hc
  exact absurd hc (by decide)

theorem namesDistinct : NamesDistinct m (declarations 4 (render package m xs)) := by
  have hdata : dataNames (declarations 4 (render package m xs)) =
      "COMMAND_NAME" :: xs.map (·.name) := by
    rw [declarations_render h, ← List.singleton_append, dataNames_append, dataNames_append,
      dataNames_append, dataNames_data, dataNames_functions]
    simp [dataNames]
  have haccessors : (m.fields.flatMap fun f => accessorsOf (pascal f.wireName)) =
      (xs.map fun x => pascal x.field.wireName).flatMap accessorsOf := by
    rw [← h.fields_eq, List.flatMap_map, List.flatMap_map]
  have hmethods : functionNames (declarations 4 (render package m xs)) =
      m.typeName :: "fromJson" ::
        (xs.map fun x => pascal x.field.wireName).flatMap accessorsOf := by
    have hnames : (xs.flatMap fun x => accessorsOf (accessorName x)) =
        (xs.map fun x => pascal x.field.wireName).flatMap accessorsOf := by
      rw [List.flatMap_map]
      exact List.flatMap_congr fun x hx => by rw [accessorName_eq h hx]
    rw [declarations_render h, ← List.singleton_append, functionNames_append, functionNames_append,
      functionNames_append, functionNames_data, functionNames_functions, hnames]
    rfl
  have hget : "getCommandName" = "get" ++ "CommandName" ∧ "getClass" = "get" ++ "Class" :=
    ⟨rfl, rfl⟩
  refine ⟨?_, ?_, ?_, ?_, ?_, ?_⟩
  · rw [hdata, h.map_name_eq]
    rfl
  · rw [hdata]
    exact List.nodup_cons.2 ⟨constant_notMem h, h.nodup_names Identifier.camel_injective⟩
  · rw [hmethods, haccessors]
  · rw [haccessors]
    exact nodup_accessorsOf (h.nodup_map_wireName Identifier.pascal_injective)
  · rw [haccessors, hget.1, get_mem_flatMap_accessorsOf]
    exact commandName_notMem h
  · rw [haccessors, hget.2, get_mem_flatMap_accessorsOf]
    exact class_notMem h

end Java

/-- **Different fields have different members.** Different normalized names stay different when
their words are joined; so a class in C# declares a property for each field, no two of one name and
none named like the class, and a class in Java declares fields, getters and setters, no two of one
name and none of the latter named like those that every command has. -/
theorem member_names_distinct :
    (∀ {s s' w w' : String}, normalize s = .ok w → normalize s' = .ok w' → w ≠ w' →
      pascal w ≠ pascal w' ∧ camel w ≠ camel w') ∧
    (∀ {d : CommandDef} {m : CommandModel}, CommandModel.resolve d = .ok m →
      (∀ {ns text : String}, (cSharp ns).emit m = .ok text →
        ∃ xs, text = sourceText (CSharp.render ns m xs) ∧
          CSharp.NamesDistinct m (declarations 8 (CSharp.render ns m xs))) ∧
      ∀ {package text : String}, (java package).emit m = .ok text →
        ∃ xs, text = sourceText (Java.render package m xs) ∧
          Java.NamesDistinct m (declarations 4 (Java.render package m xs))) := by
  refine ⟨fun {s s' w w'} hw hw' hne => ?_, fun {d m} hm => ⟨fun {ns text} h => ?_,
    fun {package text} h => ?_⟩⟩
  · have hsnake := Identifier.isSnake_of_normalize hw
    have hsnake' := Identifier.isSnake_of_normalize hw'
    exact ⟨fun he => hne (Identifier.pascal_injective hsnake hsnake' he),
      fun he => hne (Identifier.camel_injective hsnake hsnake' he)⟩
  · obtain ⟨xs, hemits, htext⟩ :=
      emits_of_emit (t := cSharp ns) (fun _ => Identifier.isName_pascal) hm h
    exact ⟨xs, htext, CSharp.namesDistinct hemits⟩
  · obtain ⟨xs, hemits, htext⟩ :=
      emits_of_emit (t := java package) (fun _ => Identifier.isName_camel) hm h
    exact ⟨xs, htext, Java.namesDistinct hemits⟩

/-- Two fields that differ in one capital. -/
theorem member_names_distinct_userId :
    let d : CommandDef := ⟨"Login", none, [⟨"userId", .integer, none⟩, ⟨"userid", .string, none⟩]⟩
    let userId : FieldModel := ⟨"userId", "user_id", .integer, none⟩
    let userid : FieldModel := ⟨"userid", "userid", .string, none⟩
    let m : CommandModel := ⟨"Login", "login", none, [userId, userid]⟩
    let text := sourceText (CSharp.render "Acme" m
      [⟨userId, ⟨.integer, false⟩, "UserId"⟩, ⟨userid, ⟨.string, false⟩, "Userid"⟩])
    let text' := sourceText (Java.render "acme" m
      [⟨userId, ⟨.integer, false⟩, "userId"⟩, ⟨userid, ⟨.string, false⟩, "userid"⟩])
    normalize "userId" = .ok "user_id" ∧ normalize "userid" = .ok "userid" ∧
      (pascal "user_id" ≠ pascal "userid" ∧ camel "user_id" ≠ camel "userid") ∧
      CommandModel.resolve d = .ok m ∧
      (cSharp "Acme").emit m = .ok text ∧ (java "acme").emit m = .ok text' ∧
      (∃ xs, text = sourceText (CSharp.render "Acme" m xs) ∧
        CSharp.NamesDistinct m (declarations 8 (CSharp.render "Acme" m xs))) ∧
      ∃ xs, text' = sourceText (Java.render "acme" m xs) ∧
        Java.NamesDistinct m (declarations 4 (Java.render "acme" m xs)) := by
  intro d userId userid m text text'
  have hid : normalize "userId" = .ok "user_id" := by decide +kernel
  have hid' : normalize "userid" = .ok "userid" := by decide +kernel
  have hm : CommandModel.resolve d = .ok m := by decide +kernel
  have h : (cSharp "Acme").emit m = .ok text :=
    emit_eq_ok_iff.2 ⟨by decide +kernel, _, by decide +kernel, rfl⟩
  have h' : (java "acme").emit m = .ok text' :=
    emit_eq_ok_iff.2 ⟨by decide +kernel, _, by decide +kernel, rfl⟩
  obtain ⟨hjoined, hmembers⟩ := member_names_distinct
  obtain ⟨hcSharp, hjava⟩ := hmembers hm
  exact ⟨hid, hid', hjoined hid hid' (by decide), hm, h, h', hcSharp h, hjava h'⟩

end Target

end CommandForge
