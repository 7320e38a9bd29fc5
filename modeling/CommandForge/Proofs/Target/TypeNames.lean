import CommandForge.Proofs.Target.EmitInjective
import CommandForge.Proofs.Target.LineComments
import CommandForge.Proofs.Target.Members
/-!
# Names that field types look up

The type of a field is looked up where its declaration stands, and there the name of the command's
own type comes first; in Python so do the names of the members, since annotations stand in the class
itself. Each language keeps the names that its types use from being taken, with a few left out:
Python keeps `Optional` and `ClassVar` and leaves the scalar types, Rust keeps `Option` and `String`
and leaves `i64` and `bool` (`freeTypeNames_eq`). So an emitted command captures no name of its field
types just when its names are not among those (`captures_nothing_iff`), and some do
(`exists_captured_name`).
-/

namespace CommandForge

open Identifier (IsSnake isNameChar)

namespace Target

/-! ## Names in types -/

/-- A sign in a type that is no part of a qualified name. -/
def partsType (c : Char) : Bool := !isNameChar c && c != ':'

/-- The names that a type looks up where it stands: of a qualified name, the first. -/
def lookedUp (type : String) : List String :=
  let names := (type.toList.splitOnP partsType).map (·.takeWhile isNameChar)
  (names.map String.ofList).filter (· != "")

/-- The type that a language writes for a field. JavaScript writes none. -/
def fieldType (language : String) (shape : Shape) : String :=
  match language with
  | "python" => Python.typeName shape
  | "csharp" => CSharp.typeName shape
  | "cplusplus" => Cpp.typeName shape
  | "java" => Java.typeName shape
  | "rust" => Rust.typeName shape
  | _ => ""

/-- What the declaration of a member says: its name and, where the language writes one, its type. -/
def fieldText (language : String) (x : Member) : String :=
  match language with
  | "python" => x.name ++ ": " ++ fieldType language x.shape
  | "rust" => Rust.fieldIdent x.name ++ ": " ++ fieldType language x.shape
  | "javascript" => x.name
  | _ => fieldType language x.shape ++ " " ++ x.name

/-- The name in the type of a field that its language leaves to be taken. -/
def freeTypeName? (language : String) (shape : Shape) : Option String :=
  match language, shape.scalar with
  | "python", scalar => some (Python.scalarType scalar)
  | "rust", .integer => some "i64"
  | "rust", .boolean => some "bool"
  | _, _ => none

/-- Of the names in the type of a field, those that are not kept. -/
def freeTypeNames (kept : List String) (language : String) (shape : Shape) : List String :=
  (lookedUp (fieldType language shape)).filter (!kept.contains ·)

theorem freeTypeNames_eq_of_all (kept : List String) (language : String)
    (h : (Shape.all.all fun shape =>
      freeTypeNames kept language shape == (freeTypeName? language shape).toList) = true)
    (shape : Shape) : freeTypeNames kept language shape = (freeTypeName? language shape).toList :=
  eq_of_beq (List.all_eq_true.1 h shape (Shape.mem_all shape))

/-- A text stands in a file when it stands in a line of the block for one of the members. -/
theorem exists_infix_of_mem {file : List String} {block : Member → List String} {xs : List Member}
    (hfile : xs.flatMap block ⊆ file) {x : Member} (hx : x ∈ xs) {text : String}
    (before after : String) (hline : before ++ text ++ after ∈ block x) :
    ∃ line ∈ file, text.toList <:+: line.toList := by
  refine ⟨_, hfile (List.mem_flatMap_of_mem hx hline), before.toList, after.toList, ?_⟩
  rw [String.toList_append, String.toList_append]

section Builtin

variable {language : String} {c : Config} {t : Target} (ht : builtin? language c = some t)

include ht

/-- A built-in language keeps all names in the type of a field but one. -/
theorem freeTypeNames_eq (shape : Shape) :
    freeTypeNames t.reservedTypes language shape = (freeTypeName? language shape).toList := by
  unfold builtin? at ht
  split at ht
  · obtain rfl := Option.some.inj ht
    exact freeTypeNames_eq_of_all python.reservedTypes "python" (by decide +kernel) shape
  · obtain rfl := Option.some.inj ht
    exact freeTypeNames_eq_of_all javaScript.reservedTypes "javascript" (by decide +kernel) shape
  · obtain rfl := Option.some.inj ht
    exact freeTypeNames_eq_of_all CSharp.reservedTypes "csharp" (by decide +kernel) shape
  · obtain rfl := Option.some.inj ht
    exact freeTypeNames_eq_of_all (Cpp.reserved ++ Cpp.reservedTypes) "cplusplus"
      (by decide +kernel) shape
  · obtain rfl := Option.some.inj ht
    exact freeTypeNames_eq_of_all (Java.reserved ++ Java.reservedTypes) "java"
      (by decide +kernel) shape
  · obtain rfl := Option.some.inj ht
    exact freeTypeNames_eq_of_all (Rust.keywords ++ Rust.unescapable ++ Rust.reservedTypes) "rust"
      (by decide +kernel) shape
  · cases ht

/-- So a name that is not kept is in the type of a field just when it is that one. -/
theorem mem_lookedUp_iff {name : String} (hname : name ∉ t.reservedTypes) (shape : Shape) :
    name ∈ lookedUp (fieldType language shape) ↔ freeTypeName? language shape = some name := by
  have hfree : name ∈ freeTypeNames t.reservedTypes language shape ↔
      name ∈ lookedUp (fieldType language shape) := by
    simp [freeTypeNames, hname]
  rw [← hfree, freeTypeNames_eq ht, Option.mem_toList]

/-- What the declarations of the members say stands in the file. -/
theorem exists_fieldText_infix (m : CommandModel) {xs : List Member} {x : Member} (hx : x ∈ xs) :
    ∃ line ∈ t.render m xs, (fieldText language x).toList <:+: line.toList := by
  unfold builtin? at ht
  split at ht
  · obtain rfl := Option.some.inj ht
    have hfile : xs.flatMap Python.attributeLines ⊆ python.render m xs :=
      List.subset_append_right _ _
    refine exists_infix_of_mem hfile hx "    " (" = " ++ Python.defaultValue x.shape) ?_
    simp [Python.attributeLines, fieldText, fieldType, String.append_assoc]
  · obtain rfl := Option.some.inj ht
    have hfile : xs.flatMap JavaScript.property ⊆ javaScript.render m xs :=
      List.subset_append_of_subset_left _ (List.subset_append_right _ _)
    refine exists_infix_of_mem hfile hx "        this."
      (" = " ++ JavaScript.initialValue x.shape ++ ";") ?_
    simp [JavaScript.property, fieldText, String.append_assoc]
  · obtain rfl := Option.some.inj ht
    have hfile : xs.flatMap CSharp.property ⊆ (cSharp c.typeNamespace).render m xs :=
      List.subset_append_of_subset_left _ (List.subset_append_right _ _)
    refine exists_infix_of_mem hfile hx "        public "
      (" \x7b get; set; \x7d" ++ CSharp.initializer x.shape) ?_
    simp [CSharp.property, fieldText, fieldType, String.append_assoc]
  · obtain rfl := Option.some.inj ht
    have hfile : xs.flatMap Cpp.dataMember ⊆ (cpp c.typeNamespace).render m xs := by
      refine List.subset_append_of_subset_left _ (List.subset_append_of_subset_left _
        (List.subset_append_of_subset_left _ (List.subset_append_of_subset_left _
          (List.subset_append_of_subset_left _ (List.subset_append_right _ _)))))
    refine exists_infix_of_mem hfile hx "        " (Cpp.initializer x.shape ++ ";") ?_
    simp [Cpp.dataMember, fieldText, fieldType, String.append_assoc]
  · obtain rfl := Option.some.inj ht
    have hfile : xs.flatMap Java.fieldLines ⊆ (java c.javaPackage).render m xs :=
      List.subset_append_of_subset_left _ (List.subset_append_of_subset_left _
        (List.subset_append_of_subset_left _ (List.subset_append_right _ _)))
    refine exists_infix_of_mem hfile hx "    private "
      (" = " ++ Java.defaultValue x.shape ++ ";") ?_
    simp [Java.fieldLines, fieldText, fieldType, String.append_assoc]
  · obtain rfl := Option.some.inj ht
    have hstruct : xs.flatMap Rust.fieldLines ⊆ Rust.structLines m.typeName xs :=
      (Rust.flatMap_infix_structLines m.typeName xs).subset
    have hfile : xs.flatMap Rust.fieldLines ⊆ (rust c.rustCrate).render m xs :=
      List.subset_append_of_subset_left _ (List.subset_append_of_subset_right _ hstruct)
    refine exists_infix_of_mem hfile hx "    pub " "," ?_
    simp [Rust.fieldLines, fieldText, fieldType, String.append_assoc]
  · cases ht

end Builtin

/-! ## Annotations in Python -/

namespace Python

/-- The names that the annotations of a class look up, that of its command name among them. -/
def annotationNames (xs : List Member) : List String :=
  lookedUp "ClassVar[str]" ++ xs.flatMap fun x => lookedUp (typeName x.shape)

theorem mem_lookedUp_typeName {name : String} {shape : Shape} :
    name ∈ lookedUp (typeName shape) ↔
      (shape.optional = true ∧ name = "Optional") ∨ name = scalarType shape.scalar := by
  have hnames : lookedUp (typeName shape) =
      (if shape.optional then ["Optional"] else []) ++ [scalarType shape.scalar] := by
    rcases shape with ⟨_ | _ | _, _ | _⟩ <;> decide +kernel
  rw [hnames]
  rcases shape with ⟨scalar, _ | _⟩ <;> simp

/-- Members are named like scalar types at most, since the other names start with a capital. -/
theorem mem_annotationNames_iff {m : CommandModel} {xs : List Member} (h : python.Emits m xs)
    {x : Member} (hx : x ∈ xs) : x.name ∈ annotationNames xs ↔
      x.name = "str" ∨ ∃ y ∈ xs, x.name = scalarType y.shape.scalar := by
  have hconstant : lookedUp "ClassVar[str]" = ["ClassVar", "str"] := by decide +kernel
  have hsnake : IsSnake x.name.toList := (h.wellNamed x hx).name_eq ▸ h.isSnake x hx
  have hclassVar : x.name ≠ "ClassVar" := hsnake.ne (by decide)
  have hoptional : x.name ≠ "Optional" := hsnake.ne (by decide)
  simp [annotationNames, hconstant, mem_lookedUp_typeName, hclassVar, hoptional]

end Python

/-! ## Capture -/

/-- The type of a command is named like no type that its field declarations look up, and in Python,
where they do so among the members, no member is. -/
structure CapturesNothing (language : String) (m : CommandModel) (xs : List Member) : Prop where
  typeName_notMem : ∀ x ∈ xs, m.typeName ∉ lookedUp (fieldType language x.shape)
  name_notMem : language = "python" → ∀ x ∈ xs, x.name ∉ Python.annotationNames xs

/-- **When a command captures nothing.** The names and types of the members stand in the file of an
emitted command. Its type is named like none of the types just when it is not named like the one
that the language does not keep: a scalar type in Python, `i64` or `bool` in Rust, and none in the
other languages; and a member in Python is named like none just when it is not named `str` or like
the scalar type of some member. -/
theorem captures_nothing_iff {language : String} {c : Config} {t : Target}
    (ht : builtin? language c = some t) {d : CommandDef} {m : CommandModel}
    (hm : CommandModel.resolve d = .ok m) {text : String} (h : t.emit m = .ok text) :
    ∃ xs, xs.map (·.field) = m.fields ∧ text = sourceText (t.render m xs) ∧
      (∀ x ∈ xs, ∃ line ∈ t.render m xs, (fieldText language x).toList <:+: line.toList) ∧
      (CapturesNothing language m xs ↔
        (∀ x ∈ xs, freeTypeName? language x.shape ≠ some m.typeName) ∧
        (language = "python" → ∀ x ∈ xs,
          x.name ≠ "str" ∧ ∀ y ∈ xs, x.name ≠ Python.scalarType y.shape.scalar)) := by
  obtain ⟨r⟩ := nonempty_reading ht
  obtain ⟨xs, hemits, htext⟩ := emits_of_emit r.isName_memberName hm h
  have htype : (∀ x ∈ xs, m.typeName ∉ lookedUp (fieldType language x.shape)) ↔
      ∀ x ∈ xs, freeTypeName? language x.shape ≠ some m.typeName :=
    forall₂_congr fun x _ => not_congr (mem_lookedUp_iff ht hemits.typeName_allowed x.shape)
  have hmembers : (language = "python" → ∀ x ∈ xs, x.name ∉ Python.annotationNames xs) ↔
      (language = "python" → ∀ x ∈ xs,
        x.name ≠ "str" ∧ ∀ y ∈ xs, x.name ≠ Python.scalarType y.shape.scalar) := by
    refine imp_congr_right fun hpython => forall₂_congr fun x hx => ?_
    subst hpython
    obtain rfl : python = t := Option.some.inj ht
    rw [Python.mem_annotationNames_iff hemits hx]
    simp only [not_or, not_exists, not_and, ne_eq]
  refine ⟨xs, hemits.fields_eq, htext, fun x hx => exists_fieldText_infix ht m hx, ?_⟩
  exact ⟨fun hnothing => ⟨htype.1 hnothing.typeName_notMem, hmembers.1 hnothing.name_notMem⟩,
    fun hfree => ⟨htype.2 hfree.1, hmembers.2 hfree.2⟩⟩

/-- An optional integer takes no name that a ping could have. -/
theorem captures_nothing_iff_ping :
    let d : CommandDef := ⟨"Ping", none, [⟨"sentAt", .optional .integer, none⟩]⟩
    let sentAt : FieldModel := ⟨"sentAt", "sent_at", .optional .integer, none⟩
    let m : CommandModel := ⟨"Ping", "ping", none, [sentAt]⟩
    let text := sourceText (python.render m [⟨sentAt, ⟨.integer, true⟩, "sent_at"⟩])
    builtin? "python" {} = some python ∧ CommandModel.resolve d = .ok m ∧
      python.emit m = .ok text ∧
      ∃ xs, xs.map (·.field) = m.fields ∧ text = sourceText (python.render m xs) ∧
        (∀ x ∈ xs, ∃ line ∈ python.render m xs,
          (fieldText "python" x).toList <:+: line.toList) ∧
        (CapturesNothing "python" m xs ↔
          (∀ x ∈ xs, freeTypeName? "python" x.shape ≠ some m.typeName) ∧
          ∀ x ∈ xs, x.name ≠ "str" ∧ ∀ y ∈ xs, x.name ≠ Python.scalarType y.shape.scalar) := by
  intro d sentAt m text
  have ht : builtin? "python" {} = some python := rfl
  have hm : CommandModel.resolve d = .ok m := by decide +kernel
  have h : python.emit m = .ok text :=
    emit_eq_ok_iff.2 ⟨by decide +kernel, _, by decide +kernel, rfl⟩
  obtain ⟨xs, hfields, htext, hlines, hiff⟩ := captures_nothing_iff ht hm h
  refine ⟨ht, hm, h, xs, hfields, htext, hlines, hiff.trans (and_congr_right fun _ => ?_)⟩
  exact ⟨fun hmembers => hmembers rfl, fun hmembers _ => hmembers⟩

/-- A built-in language emits the command, and a name in its field types is captured. -/
def Captures (language : String) (d : CommandDef) : Prop :=
  ∃ t m xs, builtin? language {} = some t ∧ CommandModel.resolve d = .ok m ∧
    xs.map (·.field) = m.fields ∧ t.emit m = .ok (sourceText (t.render m xs)) ∧
    ¬ CapturesNothing language m xs

/-- A struct `bool` has a field of its own type, a class `int` is named like the type of its field,
and a member `str` hides the type of its own annotation. -/
theorem exists_captured_name :
    Captures "rust" ⟨"bool", none, [⟨"on", .boolean, none⟩]⟩ ∧
      Captures "python" ⟨"int", none, [⟨"count", .integer, none⟩]⟩ ∧
      Captures "python" ⟨"Ping", none, [⟨"str", .string, none⟩]⟩ := by
  refine ⟨?_, ?_, ?_⟩
  · let on : FieldModel := ⟨"on", "on", .boolean, none⟩
    refine ⟨rust "cmdgen", ⟨"bool", "bool", none, [on]⟩, [⟨on, ⟨.boolean, false⟩, "on"⟩], rfl,
      by decide +kernel, rfl, emit_eq_ok_iff.2 ⟨by decide +kernel, _, by decide +kernel, rfl⟩,
      fun hnothing => ?_⟩
    exact hnothing.typeName_notMem _ List.mem_cons_self (by decide +kernel)
  · let count : FieldModel := ⟨"count", "count", .integer, none⟩
    refine ⟨python, ⟨"int", "int", none, [count]⟩, [⟨count, ⟨.integer, false⟩, "count"⟩], rfl,
      by decide +kernel, rfl, emit_eq_ok_iff.2 ⟨by decide +kernel, _, by decide +kernel, rfl⟩,
      fun hnothing => ?_⟩
    exact hnothing.typeName_notMem _ List.mem_cons_self (by decide +kernel)
  · let str : FieldModel := ⟨"str", "str", .string, none⟩
    refine ⟨python, ⟨"Ping", "ping", none, [str]⟩, [⟨str, ⟨.string, false⟩, "str"⟩], rfl,
      by decide +kernel, rfl, emit_eq_ok_iff.2 ⟨by decide +kernel, _, by decide +kernel, rfl⟩,
      fun hnothing => ?_⟩
    exact hnothing.name_notMem rfl _ List.mem_cons_self (by decide +kernel)

end Target

end CommandForge
