import Mathlib.Data.List.Nodup
import CommandForge.Proofs.Command.Resolved
import CommandForge.Proofs.Identifier.NameChars
import CommandForge.Proofs.Lists
import CommandForge.Proofs.Target.SourceLines
/-!
# Accepted commands

What a target knows of a command when it renders it (`Target.Accepts`), and what it takes for the
rendered lines to tell the command (`Target.Reading`): a way to find its declarations among the rows
of the file, whatever the documentation says, and declarations that tell their names and shapes.
A target with a reading never writes one text for two commands that differ in them
(`Reading.eq_of_emit_eq`).
-/

namespace CommandForge

open Identifier (IsName)

/-! ## Shapes -/

/-- Every shape. -/
def Shape.all : List Shape :=
  [⟨.string, false⟩, ⟨.string, true⟩, ⟨.integer, false⟩, ⟨.integer, true⟩, ⟨.boolean, false⟩,
    ⟨.boolean, true⟩]

theorem Shape.mem_all (s : Shape) : s ∈ all := by
  rcases s with ⟨_ | _ | _, _ | _⟩ <;> decide

/-- What is written differently for every shape tells the shape. -/
theorem Shape.eq_of_nodup {α : Type} {f : Shape → α} (h : (all.map f).Nodup) {s s' : Shape}
    (he : f s = f s') : s = s' :=
  List.inj_on_of_nodup_map h (mem_all s) (mem_all s') he

namespace Target

theorem isLine_of_isName {s : String} (h : IsName s) : IsLine s := h.notMem (by decide)

theorem isLine_named {s before after : String} (hb : IsLine before) (h : IsName s)
    (ha : IsLine after) : IsLine (before ++ s ++ after) :=
  isLine_around hb (isLine_of_isName h) ha

/-- The type of an optional value stands around that of its scalar, where it does not have one of
its own. -/
theorem notMem_optional {c : Char} {optional : Bool} {s before after : String}
    (hb : c ∉ before.toList) (hs : c ∉ s.toList) (ha : c ∉ after.toList) :
    c ∉ (if optional then before ++ s ++ after else s).toList := by
  split
  · exact notMem_around hb hs ha
  · exact hs

/-- A name needs no escape in a string literal. -/
theorem stringLiteral_of_isName {s : String} (h : IsName s) :
    stringLiteral s = "\"" ++ s ++ "\"" := by
  have hsame : s.toList.flatMap literalChar = s.toList := by
    refine (List.flatMap_congr fun c hc => ?_).trans (List.flatMap_singleton' _)
    unfold literalChar
    split
    · exact absurd hc (h.notMem (by decide))
    · exact absurd hc (h.notMem (by decide))
    · rfl
  rw [stringLiteral, hsame, String.ofList_append, ← List.singleton_append, String.ofList_append,
    String.ofList_toList]

/-! ## Members -/

/-- What a target knows of a member it renders. -/
structure WellNamed (t : Target) (x : Member) : Prop where
  isName_wireName : IsName x.field.wireName
  name_eq : x.name = t.memberName x.field.wireName
  isName_name : IsName x.name
  shape?_eq : x.field.type.shape? = some x.shape

/-- What a target knows of a command it renders. -/
structure Accepts (t : Target) (m : CommandModel) (members : List Member) : Prop where
  isName_typeName : IsName m.typeName
  isName_commandName : IsName m.commandName
  wellNamed : ∀ x ∈ members, t.WellNamed x
  fields_eq : members.map (·.field) = m.fields

variable {t : Target}

theorem member_eq_ok {typeName : String} {f : FieldModel} {x : Member}
    (h : t.member typeName f = .ok x) :
    x.field = f ∧ x.name = t.memberName f.wireName ∧ f.type.shape? = some x.shape := by
  unfold member FieldModel.shape at h
  split at h
  · simp at h
  · rename_i shape hs
    split at hs
    · rename_i hshape
      obtain rfl := Except.ok.inj hs
      simp only at h
      split at h
      · simp at h
      · obtain rfl := Except.ok.inj h
        exact ⟨rfl, rfl, hshape⟩
    · simp at hs

theorem memberList_eq_ok {typeName : String} {fields : List FieldModel} {members : List Member}
    (h : t.memberList typeName fields = .ok members) :
    members.map (·.field) = fields ∧
      ∀ x ∈ members, x.name = t.memberName x.field.wireName ∧
        x.field.type.shape? = some x.shape := by
  induction fields generalizing members with
  | nil =>
    obtain rfl := Except.ok.inj h
    exact ⟨rfl, by simp⟩
  | cons f fields ih =>
    simp only [memberList] at h
    split at h
    · simp at h
    · rename_i x hx
      split at h
      · simp at h
      · rename_i xs hxs
        obtain rfl := Except.ok.inj h
        obtain ⟨rfl, hname, hshape⟩ := member_eq_ok hx
        obtain ⟨hfields, hrest⟩ := ih hxs
        refine ⟨by rw [List.map_cons, hfields], fun y hy => ?_⟩
        rcases List.mem_cons.1 hy with rfl | hy
        · exact ⟨hname, hshape⟩
        · exact hrest y hy

/-- A command is emitted when the target does not keep its name and has a member for each field;
its text is that of the rendered lines. -/
theorem emit_eq_ok_iff {m : CommandModel} {text : String} :
    t.emit m = .ok text ↔ t.reservedTypes.contains m.typeName = false ∧
      ∃ members, t.memberList m.typeName m.fields = .ok members ∧
        text = sourceText (t.render m members) := by
  constructor
  · intro h
    unfold emit at h
    split at h
    · simp at h
    · rename_i hfree
      split at h
      · simp at h
      · rename_i members hmembers
        exact ⟨Bool.eq_false_iff.2 hfree, members, hmembers, (Except.ok.inj h).symm⟩
  · rintro ⟨hfree, members, hmembers, rfl⟩
    rw [emit, hfree, hmembers]
    rfl

theorem accepts_of_memberList (ht : ∀ s, IsName s → IsName (t.memberName s)) {d : CommandDef}
    {m : CommandModel} (hm : CommandModel.Resolved d m) {members : List Member}
    (h : t.memberList m.typeName m.fields = .ok members) : t.Accepts m members := by
  obtain ⟨hfields, hnames⟩ := memberList_eq_ok h
  refine ⟨?_, ?_, fun x hx => ?_, hfields⟩
  · intro c hc
    exact Identifier.isNameChar_of_isAlphanum (hm.isAlphanum_typeName c hc)
  · exact Identifier.isName_of_isWireChar hm.isWireChar_commandName
  · obtain ⟨hname, hshape⟩ := hnames x hx
    have hfield : x.field ∈ m.fields := hfields ▸ List.mem_map.2 ⟨x, hx, rfl⟩
    have hwire := Identifier.isName_of_isWireChar (hm.isWireChar_wireName hfield)
    exact ⟨hwire, hname, hname ▸ ht _ hwire, hshape⟩

/-- A command that is emitted is accepted, and its text is that of the rendered lines. -/
theorem accepts_of_emit (ht : ∀ s, IsName s → IsName (t.memberName s)) {d : CommandDef}
    {m : CommandModel} (hm : CommandModel.Resolved d m) {text : String}
    (h : t.emit m = .ok text) :
    ∃ members, t.Accepts m members ∧ text = sourceText (t.render m members) := by
  obtain ⟨-, members, hmembers, htext⟩ := emit_eq_ok_iff.1 h
  exact ⟨members, accepts_of_memberList ht hm hmembers, htext⟩

/-! ## Readings -/

/-- How the declarations of a command are found in its file. -/
structure Reading (t : Target) where
  /-- The rows of the declarations among those of the file. -/
  read : List (List Char) → List (List Char)
  /-- The rows for the command itself, before and behind those for its members. -/
  front : CommandModel → List (List Char)
  back : CommandModel → List (List Char)
  /-- The rows for a member. -/
  declaration : Member → List (List Char)
  /-- How many those are. -/
  width : Nat
  width_pos : 0 < width
  length_heading : ∀ m n, (front m).length = (front n).length ∧ (back m).length = (back n).length
  length_declaration : ∀ x, (declaration x).length = width
  isName_memberName : ∀ s, IsName s → IsName (t.memberName s)
  read_render : ∀ {m xs}, t.Accepts m xs →
    read (rows (t.render m xs)) = front m ++ xs.flatMap declaration ++ back m
  names_eq : ∀ {m n xs ys}, t.Accepts m xs → t.Accepts n ys → front m = front n →
    back m = back n → m.typeName = n.typeName ∧ m.commandName = n.commandName
  member_eq : ∀ {x y}, t.WellNamed x → t.WellNamed y → declaration x = declaration y →
    x.field.wireName = y.field.wireName ∧ x.shape = y.shape

namespace Reading

variable {m n : CommandModel} {xs ys : List Member}

/-- Rendered lines tell the names of the command and, in order, the names and shapes of its
members. -/
theorem eq_of_rows_eq (r : Reading t) (hm : t.Accepts m xs) (hn : t.Accepts n ys)
    (h : rows (t.render m xs) = rows (t.render n ys)) :
    m.typeName = n.typeName ∧ m.commandName = n.commandName ∧
      xs.map (fun x => (x.field.wireName, x.shape)) =
        ys.map fun y => (y.field.wireName, y.shape) := by
  -- The rows of the command itself are equally many, so those of the members are cut out alike.
  have hread := congrArg r.read h
  rw [r.read_render hm, r.read_render hn, List.append_assoc, List.append_assoc] at hread
  obtain ⟨hlen, hlen'⟩ := r.length_heading m n
  obtain ⟨hfront, hrest⟩ := List.append_inj hread hlen
  obtain ⟨hmembers, hback⟩ := List.append_inj' hrest hlen'
  obtain ⟨htype, hname⟩ := r.names_eq hm hn hfront hback
  refine ⟨htype, hname, ?_⟩
  refine map_eq_of_flatMap_eq r.width_pos r.length_declaration (fun x hx y hy he => ?_) hmembers
  obtain ⟨hwire, hshape⟩ := r.member_eq (hm.wellNamed x hx) (hn.wellNamed y hy) he
  rw [hwire, hshape]

end Reading

/-! ## Commands -/

theorem Accepts.map_fields {m : CommandModel} {xs : List Member} (h : t.Accepts m xs) :
    m.fields.map (fun f => (f.wireName, f.type.shape?)) =
      xs.map fun x => (x.field.wireName, some x.shape) := by
  rw [← h.fields_eq, List.map_map]
  refine List.map_congr_left fun x hx => ?_
  rw [Function.comp_apply, (h.wellNamed x hx).shape?_eq]

/-- Resolved commands that a target with a reading writes as one text have the same names and the
same names and shapes of fields. -/
theorem Reading.eq_of_emit_eq (r : Reading t) {d e : CommandDef} {m n : CommandModel}
    (hm : CommandModel.Resolved d m) (hn : CommandModel.Resolved e n) {text : String}
    (h : t.emit m = .ok text) (h' : t.emit n = .ok text) :
    m.typeName = n.typeName ∧ m.commandName = n.commandName ∧
      ∃ fields : List (String × Shape),
        m.fields.map (fun f => (f.wireName, f.type.shape?)) =
          fields.map (fun f => (f.1, some f.2)) ∧
        n.fields.map (fun f => (f.wireName, f.type.shape?)) =
          fields.map fun f => (f.1, some f.2) := by
  obtain ⟨xs, hxs, htext⟩ := accepts_of_emit r.isName_memberName hm h
  obtain ⟨ys, hys, htext'⟩ := accepts_of_emit r.isName_memberName hn h'
  obtain ⟨htype, hname, hfields⟩ :=
    r.eq_of_rows_eq hxs hys (rows_eq_of_sourceText_eq (htext.symm.trans htext'))
  refine ⟨htype, hname, xs.map fun x => (x.field.wireName, x.shape), ?_, ?_⟩
  · rw [hxs.map_fields, List.map_map]
    rfl
  · rw [hys.map_fields, hfields, List.map_map]
    rfl

end Target

end CommandForge
