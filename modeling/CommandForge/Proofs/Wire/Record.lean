import CommandForge.Proofs.Json.FlatObject
import CommandForge.Wire.Record
/-!
# Records of scalars

How a record whose slots hold scalars is written and read, for any fields with different keys: its
members on the wire are those of the present slots (`filter_plainMembers`), reading them gives
those slots (`readMembers_presentMembers`), and each field then finds its own
(`lookup_presentSlots`). Fields and slots go in pairs throughout.
-/

namespace CommandForge

/-! ## Slots -/

/-- The scalar values of a field: those of its kind, and absence if the field is optional. -/
def RecordField.HoldsScalar (f : RecordField) : Slot → Prop
  | .text _ => f.kind = .text
  | .integer n =>
    f.kind = .integer .i64 ∧ IntRange.i64.least ≤ n ∧ n ≤ IntRange.i64.greatest
  | .flag _ => f.kind = .flag
  | .texts _ | .any _ => False
  | .absent => f.optional = true

/-- What the slot says, unless it is absent. -/
def Slot.present? : Slot → Option Slot
  | .absent => none
  | slot => some slot

namespace RecordField

variable {f : RecordField} {slot given : Slot}

theorem isLeaf_plain (h : f.HoldsScalar slot) : slot.plain.IsLeaf := by
  cases slot with
  | integer n =>
    obtain ⟨-, hl, hg⟩ := h
    have hpow : Int.pow 2 63 = 2 ^ 63 := rfl
    simp only [IntRange.i64, hpow] at hl hg
    exact ⟨hl, by omega⟩
  | texts _ | any _ => exact h.elim
  | text _ | flag _ | absent => trivial

/-- A slot is null on the wire exactly when it is absent. -/
theorem present?_eq (h : f.HoldsScalar slot) :
    slot.present? = if slot.plain.isNull then none else some slot := by
  cases slot with
  | texts _ | any _ => exact h.elim
  | text _ | integer _ | flag _ | absent => rfl

theorem read_plain (h : f.HoldsScalar slot) (hp : slot.present? = some given) :
    f.read given.plain = .ok given := by
  cases slot with
  | text s =>
    obtain rfl := Option.some.inj hp
    have hk : f.kind = .text := h
    simp [read, Slot.plain, Json.isNull, hk, FieldKind.read]
  | integer n =>
    obtain rfl := Option.some.inj hp
    obtain ⟨hk, hr⟩ := h
    simp [read, Slot.plain, Json.isNull, hk, FieldKind.read, hr]
  | flag b =>
    obtain rfl := Option.some.inj hp
    have hk : f.kind = .flag := h
    simp [read, Slot.plain, Json.isNull, hk, FieldKind.read]
  | texts _ | any _ => exact h.elim
  | absent => simp [Slot.present?] at hp

/-- A field that was given exactly what its slot says gets that slot. -/
theorem pick_eq (h : f.HoldsScalar slot) {hasDefaults : Bool} {given : List (String × Slot)}
    (hg : given.lookup f.key = slot.present?) : f.pick hasDefaults given = .ok slot := by
  cases slot with
  | texts _ | any _ => exact h.elim
  | text _ | integer _ | flag _ => simp [pick, hg, Slot.present?]
  | absent =>
    have ho : f.optional = true := h
    simp [pick, hg, Slot.present?, missing, ho]

end RecordField

namespace RecordType

/-! ## Reading -/

/-- The slots that are present, under the keys of their fields. -/
def presentSlots (zs : List (RecordField × Slot)) : List (String × Slot) :=
  zs.filterMap fun (f, slot) => slot.present?.map fun s => (f.key, s)

/-- The plain members of the slots that are present. -/
def presentMembers (zs : List (RecordField × Slot)) : List (String × Json) :=
  (presentSlots zs).map fun (key, slot) => (key, slot.plain)

theorem presentSlots_cons (z : RecordField × Slot) (zs : List (RecordField × Slot)) :
    presentSlots (z :: zs) =
      (z.2.present?.map fun s => (z.1.key, s)).toList ++ presentSlots zs := by
  cases h : z.2.present? <;> simp [presentSlots, h]

theorem keys_presentSlots_sublist (zs : List (RecordField × Slot)) :
    ((presentSlots zs).map (·.1)).Sublist (zs.map (·.1.key)) := by
  induction zs with
  | nil => simp [presentSlots]
  | cons z zs ih =>
    rw [presentSlots_cons]
    cases h : z.2.present? with
    | none => simpa [h] using ih.cons _
    | some s => simpa [h] using ih

/-- Under different keys, each present slot is found under its key. -/
theorem lookup_presentSlots {zs : List (RecordField × Slot)} (hn : (zs.map (·.1.key)).Nodup)
    {z : RecordField × Slot} (hz : z ∈ zs) : (presentSlots zs).lookup z.1.key = z.2.present? := by
  induction zs with
  | nil => simp at hz
  | cons y zs ih =>
    rw [List.map_cons, List.nodup_cons] at hn
    rw [presentSlots_cons]
    rcases List.mem_cons.1 hz with rfl | hz
    · cases h : z.2.present? with
      | some s => simp
      | none =>
        -- The slot itself left nothing, and no later field has its key.
        have hnot : z.1.key ∉ (presentSlots zs).map (·.1) :=
          fun hmem => hn.1 ((keys_presentSlots_sublist zs).subset hmem)
        simp only [Option.map_none, Option.toList_none, List.nil_append]
        rw [List.lookup_eq_none_iff]
        intro p hp
        rw [bne_iff_ne]
        intro he
        exact hnot (List.mem_map.2 ⟨p, hp, he.symm⟩)
    · have hne : z.1.key ≠ y.1.key := by
        intro he
        exact hn.1 (he ▸ List.mem_map.2 ⟨z, hz, rfl⟩)
      cases h : y.2.present? with
      | some s => simpa [List.lookup_cons, beq_eq_false_iff_ne.2 hne] using ih hn.2 hz
      | none => simpa using ih hn.2 hz

theorem find?_key {fields : List RecordField} (hn : (fields.map (·.key)).Nodup) {f : RecordField}
    (hf : f ∈ fields) : fields.find? (·.key = f.key) = some f := by
  induction fields with
  | nil => simp at hf
  | cons g fields ih =>
    rw [List.map_cons, List.nodup_cons] at hn
    rcases List.mem_cons.1 hf with rfl | hf
    · simp
    · have hne : g.key ≠ f.key := by
        intro he
        exact hn.1 (he ▸ List.mem_map.2 ⟨f, hf, rfl⟩)
      rw [List.find?_cons_of_neg (by simpa using hne), ih hn.2 hf]

theorem readMembers_presentMembers {fields : List RecordField}
    (hn : (fields.map (·.key)).Nodup) {zs : List (RecordField × Slot)}
    (hf : ∀ z ∈ zs, z.1 ∈ fields) (hz : ∀ z ∈ zs, z.1.HoldsScalar z.2) :
    readMembers fields (presentMembers zs) = .ok (presentSlots zs) := by
  induction zs with
  | nil => rfl
  | cons z zs ih =>
    have ih := ih (fun y hy => hf y (List.mem_cons_of_mem z hy))
      fun y hy => hz y (List.mem_cons_of_mem z hy)
    rw [presentMembers, presentSlots_cons, List.map_append]
    cases h : z.2.present? with
    | none => exact ih
    | some s =>
      have hread := RecordField.read_plain (hz z List.mem_cons_self) h
      simp only [presentMembers] at ih
      simp only [Option.map_some, Option.toList_some, List.map_cons, List.map_nil,
        List.singleton_append, readMembers, find?_key hn (hf z List.mem_cons_self), hread, ih]

theorem fill_eq {hasDefaults : Bool} {given : List (String × Slot)} {fields : List RecordField}
    {slots : List Slot}
    (h : List.Forall₂ (fun f s => f.pick hasDefaults given = .ok s) fields slots) :
    fill hasDefaults given fields = .ok slots := by
  induction h with
  | nil => rfl
  | cons hf _ ih => simp only [fill, hf, ih]

/-! ## Encoding -/

/-- The members that are written: nulls and the key of the command name are left out of the plain
members, which leaves those of the present slots. -/
theorem filter_plainMembers {zs : List (RecordField × Slot)}
    (hz : ∀ z ∈ zs, z.1.HoldsScalar z.2) (hk : ∀ z ∈ zs, z.1.key ≠ commandNameKey) :
    (zs.filterMap fun (f, slot) => f.member? slot).filter
      (fun m => !m.2.isNull && m.1 != commandNameKey) = presentMembers zs := by
  rw [List.filter_filterMap, presentMembers, presentSlots, List.map_filterMap]
  refine List.filterMap_congr fun z hmem => ?_
  have hp := RecordField.present?_eq (hz z hmem)
  have hne := hk z hmem
  cases hn : z.2.plain.isNull <;>
    cases ho : z.1.omitAbsent <;> simp_all [RecordField.member?]

theorem mem_presentMembers {zs : List (RecordField × Slot)}
    (hz : ∀ z ∈ zs, z.1.HoldsScalar z.2) {m : String × Json} (hm : m ∈ presentMembers zs) :
    ∃ z ∈ zs, m = (z.1.key, z.2.plain) ∧ z.2.plain.isNull = false := by
  obtain ⟨p, hp, rfl⟩ := List.mem_map.1 hm
  obtain ⟨z, hmem, hz'⟩ := List.mem_filterMap.1 hp
  obtain ⟨s, hs, rfl⟩ := Option.map_eq_some_iff.1 hz'
  rw [RecordField.present?_eq (hz z hmem)] at hs
  split at hs
  · simp at hs
  · rename_i hn
    obtain rfl := Option.some.inj hs
    exact ⟨z, hmem, rfl, by simpa using hn⟩

theorem keys_presentMembers_sublist (zs : List (RecordField × Slot)) :
    ((presentMembers zs).map (·.1)).Sublist (zs.map (·.1.key)) := by
  have h := keys_presentSlots_sublist zs
  rwa [presentMembers, List.map_map]

end RecordType

end CommandForge
