import CommandForge.Proofs.Identifier.Joined
import CommandForge.Proofs.Target.Accepted
/-!
# Names of an emitted command

What a target makes sure of when it emits a resolved command (`Target.Emits`): neither the type nor
a member has a name that the target keeps, and the members are named after normalized names, which
are pairwise different and none of which is the key of the command name. A naming that keeps
normalized names apart names the members differently (`Emits.nodup_names`).
-/

namespace CommandForge

open Identifier (IsName IsSnake)

namespace Target

variable {t : Target}

theorem allowed_of_member {typeName : String} {f : FieldModel} {x : Member}
    (h : t.member typeName f = .ok x) :
    x.name ∉ t.reservedMembers ∧ (t.typeNameReserved = true → x.name ≠ typeName) := by
  unfold member at h
  split at h
  · cases h
  · rename_i shape hshape
    dsimp only at h
    split at h
    · cases h
    · rename_i hallowed
      obtain rfl := Except.ok.inj h
      simpa using hallowed

theorem allowed_of_memberList {typeName : String} {fields : List FieldModel} {xs : List Member}
    (h : t.memberList typeName fields = .ok xs) :
    ∀ x ∈ xs, x.name ∉ t.reservedMembers ∧ (t.typeNameReserved = true → x.name ≠ typeName) := by
  induction fields generalizing xs with
  | nil =>
    obtain rfl := Except.ok.inj h
    exact List.forall_mem_nil _
  | cons f fields ih =>
    simp only [memberList] at h
    split at h
    · cases h
    · rename_i x hx
      split at h
      · cases h
      · rename_i rest hrest
        obtain rfl := Except.ok.inj h
        exact List.forall_mem_cons.2 ⟨allowed_of_member hx, ih hrest⟩

/-- What a target knows of the names of a command that it emits. -/
structure Emits (t : Target) (m : CommandModel) (xs : List Member) : Prop
    extends Accepts t m xs where
  typeName_ne_empty : m.typeName ≠ ""
  typeName_allowed : m.typeName ∉ t.reservedTypes
  isSnake : ∀ x ∈ xs, IsSnake x.field.wireName.toList
  wireName_ne : ∀ x ∈ xs, x.field.wireName ≠ commandNameKey
  nodup_wireNames : (xs.map (·.field.wireName)).Nodup
  name_allowed : ∀ x ∈ xs, x.name ∉ t.reservedMembers
  name_ne_typeName : t.typeNameReserved = true → ∀ x ∈ xs, x.name ≠ m.typeName

theorem emits_of_emit (ht : ∀ s, IsName s → IsName (t.memberName s)) {d : CommandDef}
    {m : CommandModel} (hm : CommandModel.resolve d = .ok m) {text : String}
    (h : t.emit m = .ok text) : ∃ xs, t.Emits m xs ∧ text = sourceText (t.render m xs) := by
  have hresolved := CommandModel.resolved_of_resolve hm
  obtain ⟨hfree, xs, hxs, htext⟩ := emit_eq_ok_iff.1 h
  have hallowed := allowed_of_memberList hxs
  have haccepts := accepts_of_memberList ht hresolved hxs
  have hfield : ∀ x ∈ xs, x.field ∈ m.fields :=
    fun x hx => haccepts.fields_eq ▸ List.mem_map_of_mem hx
  refine ⟨xs, { haccepts with
    typeName_ne_empty := (Identifier.ne_empty_of_normalize hresolved.normalized).1
    typeName_allowed := by simpa using hfree
    isSnake := fun x hx =>
      Identifier.isSnake_of_normalize (hresolved.fields.normalized _ (hfield x hx))
    wireName_ne := fun x hx => hresolved.fields.ne_commandNameKey _ (hfield x hx)
    nodup_wireNames := ?_
    name_allowed := fun x hx => (hallowed x hx).1
    name_ne_typeName := fun hreserved x hx => (hallowed x hx).2 hreserved }, htext⟩
  have hnodup := hresolved.fields.nodup
  rwa [← haccepts.fields_eq, List.map_map] at hnodup

namespace Emits

variable {m : CommandModel} {xs : List Member} (h : t.Emits m xs)

include h

theorem map_name_eq : xs.map (·.name) = m.fields.map fun f => t.memberName f.wireName := by
  rw [← h.fields_eq, List.map_map]
  exact List.map_congr_left fun x hx => (h.wellNamed x hx).name_eq

/-- What is said of all names of members is said of all fields. -/
theorem forall_name_iff (p : String → Prop) :
    (∀ x ∈ xs, p x.name) ↔ ∀ f ∈ m.fields, p (t.memberName f.wireName) := by
  rw [← List.forall_mem_map (f := Member.name), h.map_name_eq, List.forall_mem_map]

/-- What keeps normalized names apart keeps those of the fields apart. -/
theorem nodup_map_wireName {f : String → String} (hinj : ∀ {v w}, IsSnake v.toList →
    IsSnake w.toList → f v = f w → v = w) : (xs.map fun x => f x.field.wireName).Nodup := by
  have hmap : (xs.map fun x => f x.field.wireName) = (xs.map (·.field.wireName)).map f := by
    rw [List.map_map]
    rfl
  rw [hmap]
  refine h.nodup_wireNames.map_on fun v hv w hw heq => ?_
  obtain ⟨x, hx, rfl⟩ := List.mem_map.1 hv
  obtain ⟨y, hy, rfl⟩ := List.mem_map.1 hw
  exact hinj (h.isSnake x hx) (h.isSnake y hy) heq

theorem nodup_names (hinj : ∀ {v w}, IsSnake v.toList → IsSnake w.toList →
    t.memberName v = t.memberName w → v = w) : (xs.map (·.name)).Nodup := by
  have hnames : xs.map (·.name) = xs.map fun x => t.memberName x.field.wireName :=
    List.map_congr_left fun x hx => (h.wellNamed x hx).name_eq
  rw [hnames]
  exact h.nodup_map_wireName hinj

end Emits

end Target

end CommandForge
