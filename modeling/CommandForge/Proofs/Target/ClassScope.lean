import Mathlib.Data.List.Nodup
import CommandForge.Proofs.Target.Declarations
import CommandForge.Proofs.Target.Members
import CommandForge.Target.Cpp
/-!
# The scope of a C++ class

A generated class declares its constructor, the constant `kCommandName`, its data members and two
functions in one scope (`Cpp.declarations_render`), under the names that the base class declares
(`Cpp.baseMembers`). Members are named after normalized names and the class as the schema names it,
and the two are never compared: members differ from each other and from what the target keeps, but a
class may be named like one of its members or like the constant, a member like the two private
functions of the base class, and a class like the parameter of `from_json`, where its name is used
as a type. Nothing else clashes (`Cpp.emitted_scope_clear_iff`), and each of these does happen
(`Cpp.exists_clash`).
-/

namespace CommandForge

open Identifier (IsName IsSnake isName_lit isNameChar)

namespace Target

/-- The names of the parameters in the first parentheses of a line. -/
def parameters (line : List Char) : List String :=
  let inside := ((line.dropWhile (· != '(')).drop 1).takeWhile (· != ')')
  ((inside.splitOn ',').map fun parameter => String.ofList (lastWord parameter)).filter (· != "")

namespace Cpp

/-- The base class: the base file from its head on. -/
def baseClass : List String := Support.cppBase.drop 30

example : baseClass.head? = some "    class Command" := rfl

/-- The names that the base class declares. -/
def baseMembers : List String := (declarations 8 baseClass).map (·.name)

theorem declarations_baseClass : declarations 8 baseClass =
    [⟨"kCommandNameKey", false⟩, ⟨"Command", true⟩, ⟨"Command", true⟩, ⟨"command_name", true⟩,
      ⟨"to_json", true⟩, ⟨"to_json_string", true⟩, ⟨"parse_object", true⟩, ⟨"write_field", true⟩,
      ⟨"write_field", true⟩, ⟨"read_field", true⟩, ⟨"read_field", true⟩, ⟨"command_name_", false⟩,
      ⟨"to_lower", true⟩, ⟨"checked", true⟩] := by
  dsimp only [baseClass, Support.cppBase, List.drop]
  apply declarations_lits
  case h =>
    -- The literals are unified with their characters one by one.
    repeat
      apply List.Forall₂.cons
      · rfl
    exact .nil
  decide +kernel

variable {ns : String} {m : CommandModel} {xs : List Member}

/-! ## What a class declares -/

theorem declarations_brief {s : String} {cs : List Char} (hs : s = String.ofList cs)
    (hopen : opensNothing 8 (cs ++ ['/']) = true) (hline : opensNothing 8 (cs ++ [' ', '*']) = true)
    (docs : Option String) : declarations 8 (brief s docs) = [] := by
  have hfirst : declaration? 8 (s ++ "/**").toList = none :=
    declaration?_mark_eq_none (x := "/") (t := "**") hs rfl rfl hopen
  have hlast : declaration? 8 (s ++ " */").toList = none :=
    declaration?_mark_eq_none (x := " *") (t := "/") hs rfl rfl hline
  have hstar : s ++ " *" = String.ofList (cs ++ [' ', '*']) := lit_append hs rfl
  have hbrief : ∀ t, declaration? 8 (s ++ " * @brief " ++ t).toList = none := by
    intro t
    have hmark : " * @brief " = " *" ++ " @brief " := rfl
    rw [hmark, ← String.append_assoc, declaration?_around_eq_none hstar hline]
  unfold brief
  split
  · rfl
  · rw [declarations_append, declarations_append, declarations_cons_of_none hfirst,
      declarations_cons_of_none (hbrief _),
      declarations_map_eq_nil fun _ => declaration?_marked_eq_none hstar hline _,
      declarations_cons_of_none hlast]
    rfl

theorem declarations_dataMember {x : Member} (hx : IsName x.name) (hne : x.name ≠ "") :
    declarations 8 (dataMember x) = [⟨x.name, false⟩] := by
  have hopens : opensDeclaration 8 ("        " ++ typeName x.shape ++ " ").toList = true := by
    rcases x.shape with ⟨_ | _ | _, _ | _⟩ <;> decide +kernel
  have hcloses : closesDeclaration false (initializer x.shape ++ ";").toList = true := by
    rcases x.shape with ⟨_ | _ | _, _ | _⟩
    all_goals exact test_lit (lit_append rfl rfl) rfl
  have hmember : declaration? 8
      ("        " ++ typeName x.shape ++ " " ++ x.name ++ initializer x.shape ++ ";").toList =
        some ⟨x.name, false⟩ := by
    rw [String.append_assoc]
    exact declaration?_eq_some hopens hx hne hcloses
  have hdocs := declarations_brief (s := "        ") rfl rfl rfl x.field.docs
  rw [dataMember, declarations_append, hdocs, declarations_cons_of_some hmember]
  rfl

theorem declarations_writeBody (xs : List Member) : declarations 8 (writeBody xs) = [] := by
  have hwrites : declarations 8 (xs.map fun x =>
      "            write_field(json, \"" ++ x.name ++ "\", " ++ x.name ++ ");") = [] := by
    refine declarations_map_eq_nil fun x => ?_
    simp only [String.append_assoc]
    exact declaration?_append_eq_none rfl rfl
  unfold writeBody
  split
  · rw [declarations_cons_lit rfl (by rfl), declarations_nil]
  · rw [declarations_append, declarations_append, declarations_cons_lit rfl (by rfl), hwrites,
      declarations_cons_lit rfl (by rfl)]
    rfl

theorem declarations_readBody (name : String) (xs : List Member) :
    declarations 8 (readBody name xs) = [] := by
  have hreads : declarations 8 (xs.map fun x =>
      "            read_field(json, \"" ++ x.name ++ "\", command." ++ x.name ++ ");") = [] := by
    refine declarations_map_eq_nil fun x => ?_
    simp only [String.append_assoc]
    exact declaration?_append_eq_none rfl rfl
  unfold readBody
  split
  · rw [declarations_cons_lit rfl (by rfl), declarations_cons_around rfl (by rfl),
      declarations_nil]
  · rw [declarations_append, declarations_append, declarations_cons_lit rfl (by rfl),
      declarations_cons_around rfl (by rfl), hreads, declarations_cons_lit rfl (by rfl)]
    rfl

theorem declaration?_fromJson {name : String} (hname : IsName name) (hne : name ≠ "") :
    declaration? 8 ("        static " ++ name ++ " from_json(const std::string &text)").toList =
      some ⟨"from_json", true⟩ :=
  declaration?_behind (s := " ") (x := "from_json") (t := "(const std::string &text)") rfl
    (test_lit rfl rfl) hname hne (by decide) (by decide) (isName_lit rfl rfl) (by decide)
    (test_lit rfl rfl)

theorem declarations_head {name : String} (hname : IsName name) (hne : name ≠ "")
    (commandName : String) :
    declarations 8 ["    class " ++ name ++ " : public Command",
      "    \x7b",
      "    public:",
      "        static constexpr const char *kCommandName = \"" ++ commandName ++ "\";",
      "",
      "        " ++ name ++ "() : Command(kCommandName) \x7b\x7d"] =
        [⟨"kCommandName", false⟩, ⟨name, true⟩] := by
  have hconstant : declaration? 8 ("        static constexpr const char *kCommandName = \""
      ++ commandName ++ "\";").toList = some ⟨"kCommandName", false⟩ := by
    rw [String.append_assoc]
    exact declaration?_literal (s := "        static constexpr const char *")
      (x := "kCommandName") (t := " = \"") rfl (test_lit rfl rfl) (isName_lit rfl rfl) (by decide)
      (test_lit rfl rfl)
  have hconstructor : declaration? 8
      ("        " ++ name ++ "() : Command(kCommandName) \x7b\x7d").toList = some ⟨name, true⟩ :=
    declaration?_eq_some (test_lit rfl rfl) hname hne (test_lit rfl rfl)
  rw [declarations_cons_around rfl (by rfl), declarations_cons_lit rfl (by rfl),
    declarations_cons_lit rfl (by rfl), declarations_cons_of_some hconstant,
    declarations_cons_of_none rfl, declarations_cons_of_some hconstructor, declarations_nil]

/-- A class declares its constant and constructor, a data member for each member, and the functions
that write and read it. -/
theorem declarations_render (h : (cpp ns).Emits m xs) {space : String} :
    declarations 8 (render space m xs) =
      [⟨"kCommandName", false⟩, ⟨m.typeName, true⟩] ++ xs.map (fun x => ⟨x.name, false⟩)
        ++ [⟨"to_json", true⟩, ⟨"from_json", true⟩] := by
  have hincludes : declarations 8 ["// " ++ generatedNotice, "#pragma once", "",
      "#include <cstdint>", "#include <optional>", "#include <string>", "",
      "#include \"base_command.hpp\"", "", "namespace " ++ space, "\x7b"] = [] := by
    rw [declarations_cons_append rfl (by rfl), declarations_cons_lit rfl (by rfl),
      declarations_cons_of_none rfl, declarations_cons_lit rfl (by rfl),
      declarations_cons_lit rfl (by rfl), declarations_cons_lit rfl (by rfl),
      declarations_cons_of_none rfl, declarations_cons_lit rfl (by rfl),
      declarations_cons_of_none rfl, declarations_cons_append rfl (by rfl),
      declarations_cons_lit rfl (by rfl), declarations_nil]
  have hdocs := declarations_brief (s := "    ") rfl rfl rfl m.docs
  have hhead := declarations_head h.isName_typeName h.typeName_ne_empty m.commandName
  have hblank : declarations 8 (if xs.isEmpty then [] else [""]) = [] := by
    split <;> rfl
  have hmembers : declarations 8 (xs.flatMap dataMember) = xs.map fun x => ⟨x.name, false⟩ := by
    rw [List.map_eq_flatMap]
    refine declarations_flatMap fun x hx => ?_
    have hsnake : IsSnake x.name.toList := (h.wellNamed x hx).name_eq ▸ h.isSnake x hx
    exact declarations_dataMember (h.wellNamed x hx).isName_name (hsnake.ne (by decide))
  have hwrite : declarations 8 ["", "        nlohmann::json to_json() const override",
      "        \x7b"] = [⟨"to_json", true⟩] :=
    declarations_lits (.cons String.ofList_nil.symm (.cons rfl (.cons rfl .nil))) rfl
  have hread : declarations 8 ["        \x7d", "",
      "        static " ++ m.typeName ++ " from_json(const std::string &text)", "        \x7b"] =
        [⟨"from_json", true⟩] := by
    rw [declarations_cons_lit rfl (by rfl), declarations_cons_of_none rfl,
      declarations_cons_of_some (declaration?_fromJson h.isName_typeName h.typeName_ne_empty),
      declarations_cons_lit rfl (by rfl), declarations_nil]
  have hend : declarations 8 ["        \x7d", "    \x7d;", "\x7d"] = [] :=
    declarations_lits (.cons rfl (.cons rfl (.cons rfl .nil))) rfl
  rw [render, declarations_append, declarations_append, declarations_append, declarations_append,
    declarations_append, declarations_append, declarations_append, declarations_append,
    declarations_append, hincludes, hdocs, hhead, hblank, hmembers, hwrite, declarations_writeBody,
    hread, declarations_readBody, hend]
  simp

/-! ## Clashes -/

theorem parameters_append {before after : List Char} (h : '(' ∉ before) :
    parameters (before ++ '(' :: after) = parameters ('(' :: after) := by
  have hbefore : ∀ c ∈ before, (c != '(') = true :=
    fun c hc => bne_iff_ne.2 fun he => h (he ▸ hc)
  rw [parameters, parameters, List.dropWhile_append_of_pos hbefore]

theorem parameters_fromJson {name : String} (h : IsName name) :
    parameters ("        static " ++ name ++ " from_json(const std::string &text)").toList =
      ["text"] := by
  have hbefore : '(' ∉ ("        static " ++ name ++ " from_json").toList :=
    notMem_around (notMem_lit rfl rfl) (h.notMem (by decide)) (notMem_lit rfl rfl)
  have hlit : " from_json(const std::string &text)" =
      " from_json" ++ "(const std::string &text)" := rfl
  have hafter : "(const std::string &text)".toList = _ := toList_lit rfl
  rw [hlit, ← String.append_assoc, String.toList_append, hafter, parameters_append hbefore]
  decide +kernel

/-- The names that a class declares differ from each other, those of its data and constants from the
members of the base class, and its own from the parameters of the function that reads it. -/
structure ScopeClear (m : CommandModel) (lines : List String) : Prop where
  nodup : ((declarations 8 lines).map (·.name)).Nodup
  dataNames_notMem : ∀ name ∈ dataNames (declarations 8 lines), name ∉ baseMembers
  typeName_notMem : ∀ line ∈ lines, declaration? 8 line.toList = some ⟨"from_json", true⟩ →
    m.typeName ∉ parameters line.toList

theorem functions_reserved : "to_json" ∈ reserved ∧ "from_json" ∈ reserved := by
  decide +kernel

section

variable (h : (cpp ns).Emits m xs) {space : String}

include h

theorem isSnake_name {x : Member} (hx : x ∈ xs) : IsSnake x.name.toList :=
  (h.wellNamed x hx).name_eq ▸ h.isSnake x hx

theorem typeName_ne {name : String} (hname : name ∈ reserved) : m.typeName ≠ name :=
  fun he => h.typeName_allowed (List.mem_append_left _ (he ▸ hname))

theorem notMem_names {name : String} (hname : name ∈ reserved) : name ∉ xs.map (·.name) := by
  intro hmem
  obtain ⟨x, hx, rfl⟩ := List.mem_map.1 hmem
  exact h.name_allowed x hx hname

theorem constant_notMem_names : "kCommandName" ∉ xs.map (·.name) := by
  intro hmem
  obtain ⟨x, hx, hname⟩ := List.mem_map.1 hmem
  exact (isSnake_name h hx).ne (by decide) hname

/-- Members differ from each other and from what every class declares, and so does the name of the
class, but for the constant. -/
theorem nodup_declarations_iff :
    ((declarations 8 (render space m xs)).map (·.name)).Nodup ↔
      m.typeName ≠ "kCommandName" ∧ ∀ x ∈ xs, x.name ≠ m.typeName := by
  have hnames : (declarations 8 (render space m xs)).map (·.name) =
      "kCommandName" :: m.typeName :: (xs.map (·.name) ++ ["to_json", "from_json"]) := by
    rw [declarations_render h]
    simp
  have hwrite : "to_json" ∉ xs.map (·.name) := notMem_names h functions_reserved.1
  have hread : "from_json" ∉ xs.map (·.name) := notMem_names h functions_reserved.2
  have hwrite' : m.typeName ≠ "to_json" := typeName_ne h functions_reserved.1
  have hread' : m.typeName ≠ "from_json" := typeName_ne h functions_reserved.2
  have hmembers : (xs.map (·.name) ++ ["to_json", "from_json"]).Nodup := by
    refine List.nodup_append.2 ⟨h.nodup_names fun _ _ he => he, by decide, ?_⟩
    rintro name hname other hother rfl
    rcases List.mem_pair.1 hother with rfl | rfl
    · exact hwrite hname
    · exact hread hname
  have hname : m.typeName ∉ xs.map (·.name) ++ ["to_json", "from_json"] ↔
      ∀ x ∈ xs, x.name ≠ m.typeName := by
    simp [hwrite', hread']
  rw [hnames, List.nodup_cons, List.nodup_cons, hname]
  simp [constant_notMem_names h, hmembers, eq_comm]

/-- Of the members of the base class, the target keeps all but two that a normalized name could
be. -/
theorem mem_baseMembers_iff {x : Member} (hx : x ∈ xs) :
    x.name ∈ baseMembers ↔ x.name = "to_lower" ∨ x.name = "checked" := by
  have hfree : baseMembers.filter (fun name =>
      Identifier.isSnake name.toList && !reserved.contains name) = ["to_lower", "checked"] := by
    rw [baseMembers, declarations_baseClass]
    decide +kernel
  have hsnake := (isSnake_name h hx).isSnake_eq
  have hallowed : x.name ∉ reserved := h.name_allowed x hx
  have hmem : x.name ∈ baseMembers ↔ x.name ∈ ["to_lower", "checked"] := by
    rw [← hfree, List.mem_filter]
    simp [hsnake, hallowed]
  simpa using hmem

/-- One line declares the function that reads the class. -/
theorem parameters_iff :
    (∀ line ∈ render space m xs, declaration? 8 line.toList = some ⟨"from_json", true⟩ →
      m.typeName ∉ parameters line.toList) ↔ m.typeName ≠ "text" := by
  let line := "        static " ++ m.typeName ++ " from_json(const std::string &text)"
  have hline : line ∈ render space m xs :=
    List.mem_append_left _ (List.mem_append_left _ (List.mem_append_right _
      (List.mem_cons_of_mem _ (List.mem_cons_of_mem _ List.mem_cons_self))))
  have hdeclares : declaration? 8 line.toList = some ⟨"from_json", true⟩ :=
    declaration?_fromJson h.isName_typeName h.typeName_ne_empty
  have hparameters : parameters line.toList = ["text"] := parameters_fromJson h.isName_typeName
  have hcount : (declarations 8 (render space m xs)).count ⟨"from_json", true⟩ = 1 := by
    have hname : m.typeName ≠ "from_json" := typeName_ne h functions_reserved.2
    have hmembers : (xs.map fun x => (⟨x.name, false⟩ : Declaration)).count ⟨"from_json", true⟩ =
        0 := List.count_eq_zero.2 (by simp)
    rw [declarations_render h, List.count_append, List.count_append, hmembers]
    simp [hname]
  constructor
  · intro hall
    have hnot := hall line hline hdeclares
    rwa [hparameters, List.mem_singleton] at hnot
  · intro hne other hother hdeclares'
    obtain rfl := eq_of_count_eq_one hcount hother hline hdeclares' hdeclares
    rwa [hparameters, List.mem_singleton]

/-- The names that would clash are these and no others. -/
theorem scopeClear_iff : ScopeClear m (render space m xs) ↔
    m.typeName ≠ "kCommandName" ∧ m.typeName ≠ "text" ∧
      ∀ x ∈ xs, x.name ≠ m.typeName ∧ x.name ≠ "to_lower" ∧ x.name ≠ "checked" := by
  have hdata : dataNames (declarations 8 (render space m xs)) =
      "kCommandName" :: xs.map (·.name) := by
    rw [declarations_render h, dataNames_append, dataNames_append, dataNames_data]
    simp [dataNames]
  have hconstant : "kCommandName" ∉ baseMembers := by
    rw [baseMembers, declarations_baseClass]
    decide
  have hbase : (∀ name ∈ dataNames (declarations 8 (render space m xs)), name ∉ baseMembers) ↔
      ∀ x ∈ xs, x.name ≠ "to_lower" ∧ x.name ≠ "checked" := by
    rw [hdata, List.forall_mem_cons, List.forall_mem_map]
    simp only [hconstant, not_false_eq_true, true_and]
    exact forall₂_congr fun x hx => by rw [mem_baseMembers_iff h hx, not_or]
  constructor
  · intro hclear
    obtain ⟨hne, hnames⟩ := (nodup_declarations_iff h).1 hclear.nodup
    have hnotBase := hbase.1 hclear.dataNames_notMem
    exact ⟨hne, (parameters_iff h).1 hclear.typeName_notMem,
      fun x hx => ⟨hnames x hx, hnotBase x hx⟩⟩
  · rintro ⟨hne, htext, hnames⟩
    exact {
      nodup := (nodup_declarations_iff h).2 ⟨hne, fun x hx => (hnames x hx).1⟩
      dataNames_notMem := hbase.2 fun x hx => (hnames x hx).2
      typeName_notMem := (parameters_iff h).2 htext }

end

/-- **When nothing clashes in a C++ class.** The class of an emitted command declares its constant,
its constructor, a data member for each field and two functions. The names of all these, of the
members of the base class and of the parameter are clear of each other just when the command is
named neither like the constant nor like the parameter nor like a field, and no field is named like
one of the two private functions of the base class. -/
theorem emitted_scope_clear_iff {d : CommandDef} (hm : CommandModel.resolve d = .ok m)
    {text : String} (h : (cpp ns).emit m = .ok text) :
    ∃ xs, xs.map (·.field) = m.fields ∧ text = sourceText ((cpp ns).render m xs) ∧
      declarations 8 ((cpp ns).render m xs) = [⟨"kCommandName", false⟩, ⟨m.typeName, true⟩]
        ++ m.fields.map (fun f => ⟨f.wireName, false⟩)
        ++ [⟨"to_json", true⟩, ⟨"from_json", true⟩] ∧
      (ScopeClear m ((cpp ns).render m xs) ↔
        m.typeName ≠ "kCommandName" ∧ m.typeName ≠ "text" ∧ ∀ f ∈ m.fields,
          f.wireName ≠ m.typeName ∧ f.wireName ≠ "to_lower" ∧ f.wireName ≠ "checked") := by
  obtain ⟨xs, hemits, htext⟩ := emits_of_emit (t := cpp ns) (fun _ hs => hs) hm h
  have hdeclared : xs.map (fun x => (⟨x.name, false⟩ : Declaration)) =
      m.fields.map fun f => ⟨f.wireName, false⟩ := by
    have hnames := congrArg (List.map fun name => (⟨name, false⟩ : Declaration)) hemits.map_name_eq
    rwa [List.map_map, List.map_map] at hnames
  refine ⟨xs, hemits.fields_eq, htext, ?_, ?_⟩
  · rw [← hdeclared]
    exact declarations_render hemits
  · have hforall : (∀ x ∈ xs, x.name ≠ m.typeName ∧ x.name ≠ "to_lower" ∧ x.name ≠ "checked") ↔
        ∀ f ∈ m.fields, f.wireName ≠ m.typeName ∧ f.wireName ≠ "to_lower" ∧
          f.wireName ≠ "checked" :=
      hemits.forall_name_iff fun name => name ≠ m.typeName ∧ name ≠ "to_lower" ∧ name ≠ "checked"
    rw [← hforall]
    exact scopeClear_iff hemits

/-- A command and a field of one name, which differ in their first letter in the schema. -/
theorem emitted_scope_clear_iff_ping :
    let d : CommandDef := ⟨"Ping", none, [⟨"ping", .string, none⟩]⟩
    let ping : FieldModel := ⟨"ping", "ping", .string, none⟩
    let m : CommandModel := ⟨"Ping", "ping", none, [ping]⟩
    let text := sourceText ((cpp "Acme").render m [⟨ping, ⟨.string, false⟩, "ping"⟩])
    CommandModel.resolve d = .ok m ∧ (cpp "Acme").emit m = .ok text ∧
      ∃ xs, xs.map (·.field) = m.fields ∧ text = sourceText ((cpp "Acme").render m xs) ∧
        ScopeClear m ((cpp "Acme").render m xs) := by
  intro d ping m text
  have hm : CommandModel.resolve d = .ok m := by decide +kernel
  have h : (cpp "Acme").emit m = .ok text :=
    emit_eq_ok_iff.2 ⟨by decide +kernel, _, by decide +kernel, rfl⟩
  obtain ⟨xs, hfields, htext, -, hiff⟩ := emitted_scope_clear_iff hm h
  exact ⟨hm, h, xs, hfields, htext, hiff.2 (by decide)⟩

/-- The command is emitted, and names in the scope of its class clash. -/
def Clashes (d : CommandDef) : Prop :=
  ∃ m xs, CommandModel.resolve d = .ok m ∧ xs.map (·.field) = m.fields ∧
    (cpp "GeneratedCommands").emit m = .ok (sourceText ((cpp "GeneratedCommands").render m xs)) ∧
    ¬ ScopeClear m ((cpp "GeneratedCommands").render m xs)

theorem clashes_of_memberList {d : CommandDef} (members : List Member)
    (hm : CommandModel.resolve d = .ok m)
    (hfree : (cpp "GeneratedCommands").reservedTypes.contains m.typeName = false)
    (hmembers : (cpp "GeneratedCommands").memberList m.typeName m.fields = .ok members)
    (hclash : m.typeName = "kCommandName" ∨ m.typeName = "text" ∨ ∃ f ∈ m.fields,
      f.wireName = m.typeName ∨ f.wireName = "to_lower" ∨ f.wireName = "checked") :
    Clashes d := by
  have h := emit_eq_ok_iff.2 ⟨hfree, members, hmembers, rfl⟩
  obtain ⟨xs, hemits, htext⟩ :=
    emits_of_emit (t := cpp "GeneratedCommands") (fun _ hs => hs) hm h
  refine ⟨m, xs, hm, hemits.fields_eq, htext ▸ h, fun hclear => ?_⟩
  obtain ⟨hconstant, hparameter, hnames⟩ := (scopeClear_iff hemits).1 hclear
  have hfields := (hemits.forall_name_iff fun name =>
    name ≠ m.typeName ∧ name ≠ "to_lower" ∧ name ≠ "checked").1 hnames
  rcases hclash with hname | hname | ⟨f, hf, hname⟩
  · exact hconstant hname
  · exact hparameter hname
  · obtain ⟨htype, hlower, hchecked⟩ := hfields f hf
    rcases hname with hname | hname | hname
    · exact htype hname
    · exact hlower hname
    · exact hchecked hname

/-- A class with a data member of its own name, one named like its constant, one with a data member
that hides a function of the base class, and one whose name is that of a parameter where it stands
for a type. -/
theorem exists_clash :
    Clashes ⟨"ping", none, [⟨"ping", .string, none⟩]⟩ ∧ Clashes ⟨"kCommandName", none, []⟩ ∧
      Clashes ⟨"Ping", none, [⟨"toLower", .boolean, none⟩]⟩ ∧ Clashes ⟨"text", none, []⟩ := by
  refine ⟨?_, ?_, ?_, ?_⟩
  · let ping : FieldModel := ⟨"ping", "ping", .string, none⟩
    exact clashes_of_memberList (m := ⟨"ping", "ping", none, [ping]⟩)
      [⟨ping, ⟨.string, false⟩, "ping"⟩] (by decide +kernel) (by decide +kernel) (by decide +kernel)
      (.inr (.inr ⟨ping, List.mem_cons_self, .inl rfl⟩))
  · exact clashes_of_memberList (m := ⟨"kCommandName", "k_command_name", none, []⟩) []
      (by decide +kernel) (by decide +kernel) (by decide +kernel) (.inl rfl)
  · let toLower : FieldModel := ⟨"toLower", "to_lower", .boolean, none⟩
    exact clashes_of_memberList (m := ⟨"Ping", "ping", none, [toLower]⟩)
      [⟨toLower, ⟨.boolean, false⟩, "to_lower"⟩] (by decide +kernel) (by decide +kernel)
      (by decide +kernel) (.inr (.inr ⟨toLower, List.mem_cons_self, .inr (.inl rfl)⟩))
  · exact clashes_of_memberList (m := ⟨"text", "text", none, []⟩) [] (by decide +kernel)
      (by decide +kernel) (by decide +kernel) (.inr (.inl rfl))

end Cpp

end Target

end CommandForge
