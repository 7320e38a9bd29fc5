import CommandForge.Proofs.Command.Resolved
import CommandForge.Proofs.Wire.Record
/-!
# The wire format round trip

A command of a resolved model is written as an object that holds its name first and then every
present field, in either layout, and what is written reads back as the command (`decode_encode`).
The stages meet in the names: a resolved wire name is its own lowercase, differs from the others
and is not the key of the command name, so key folding leaves every written field as it is
(`foldKeys_of_lowercase`).
-/

namespace CommandForge

/-! ## Layouts -/

/-- What a layout puts between the tokens of an object. -/
def Layout.spacing : Layout → Json.Spacing
  | .compact => .none
  | .pretty => .lines

theorem Layout.text_object (layout : Layout) {ms : List (String × Json)}
    (hms : ∀ m ∈ ms, m.2.IsLeaf) :
    layout.text (.object ms) = String.ofList (layout.spacing.objectText ms) := by
  cases layout with
  | compact => rw [Layout.text, Json.compact, Json.compactChars_object, Layout.spacing]
  | pretty => rw [Layout.text, Json.pretty, Json.prettyChars_object hms, Layout.spacing]

/-- An object of leaves is read back from its text. -/
theorem Layout.read?_text_object (layout : Layout) {ms : List (String × Json)}
    (hms : ∀ m ∈ ms, m.2.IsLeaf) (hn : (ms.map (·.1)).Nodup) :
    Json.read? (layout.text (.object ms)) = some (.object ms) := by
  have hread := layout.spacing.readChars?_objectText hms
  rw [Json.ofWritten_of_nodup hn] at hread
  rw [layout.text_object hms, Json.read?, String.toList_ofList, hread]

/-! ## Records with lowercase keys -/

/-- The keys of a record type are their own lowercase, differ from one another, and none of them
is that of the command name. -/
structure RecordType.WellKeyed (t : RecordType) : Prop where
  lowercase : ∀ f ∈ t.fields, Text.lowercase f.key = f.key
  ne_commandNameKey : ∀ f ∈ t.fields, f.key ≠ commandNameKey
  nodup : (t.fields.map (·.key)).Nodup

namespace Wire

/-- Lowercase keys that differ from one another and from that of the command name pass key folding
as they are, behind the command name. -/
theorem foldKeys_of_lowercase {ms : List (String × Json)} (v : Json)
    (hl : ∀ m ∈ ms, Text.lowercase m.1 = m.1) (hk : ∀ m ∈ ms, m.1 ≠ commandNameKey)
    (hv : ∀ m ∈ ms, m.2.isNull = false) (hn : (ms.map (·.1)).Nodup) :
    foldKeys ((commandNameKey, v) :: ms) = ms := by
  have hname : Text.lowercase commandNameKey = commandNameKey :=
    Text.lowercase_of_isWireChar (by simp [commandNameKey, Identifier.isWireChar])
  rw [foldKeys, List.foldl_cons, foldMember]
  simp only [hname, true_or, ↓reduceIte]
  refine Json.foldl_nil_eq (fun m hm before hb => ?_) hn
  simp [foldMember, hl m hm, hk m hm, hv m hm, Json.put_of_notMem hb]

variable {t : RecordType} {slots : List Slot}

/-- What is written of a record: its name, then the present slots under their keys, in order. -/
def written (t : RecordType) (slots : List Slot) : List (String × Json) :=
  (commandNameKey, .string t.commandName) :: RecordType.presentMembers (t.fields.zip slots)

theorem mem_fields_of_mem_zip {z : RecordField × Slot} (hz : z ∈ t.fields.zip slots) :
    z.1 ∈ t.fields :=
  (List.of_mem_zip hz).1

theorem encode_eq (ht : t.WellKeyed) (hx : List.Forall₂ RecordField.HoldsScalar t.fields slots)
    (layout : Layout) :
    encode layout t.commandType slots = .ok (layout.text (.object (written t slots))) := by
  have hz : ∀ z ∈ t.fields.zip slots, z.1.HoldsScalar z.2 :=
    fun z hmem => (List.forall₂_iff_zip.1 hx).2 hmem
  have hk : ∀ z ∈ t.fields.zip slots, z.1.key ≠ commandNameKey :=
    fun z hmem => ht.ne_commandNameKey z.1 (mem_fields_of_mem_zip hmem)
  have hms := RecordType.filter_plainMembers hz hk
  simp only [encode, encodeMembers, RecordType.commandType, RecordType.plainMembers, written]
  rw [hms]

theorem isLeaf_written (hx : List.Forall₂ RecordField.HoldsScalar t.fields slots) :
    ∀ m ∈ written t slots, m.2.IsLeaf := by
  intro m hm
  rcases List.mem_cons.1 hm with rfl | hm
  · trivial
  · have hz : ∀ z ∈ t.fields.zip slots, z.1.HoldsScalar z.2 :=
      fun z hmem => (List.forall₂_iff_zip.1 hx).2 hmem
    obtain ⟨z, hmem, rfl, -⟩ := RecordType.mem_presentMembers hz hm
    exact RecordField.isLeaf_plain (hz z hmem)

theorem map_key_zip (hx : List.Forall₂ RecordField.HoldsScalar t.fields slots) :
    (t.fields.zip slots).map (·.1.key) = t.fields.map (·.key) := by
  rw [← List.map_fst_zip hx.length_eq.le, List.map_map, List.map_fst_zip hx.length_eq.le]
  rfl

theorem nodup_keys_presentMembers (ht : t.WellKeyed)
    (hx : List.Forall₂ RecordField.HoldsScalar t.fields slots) :
    ((RecordType.presentMembers (t.fields.zip slots)).map (·.1)).Nodup := by
  refine (RecordType.keys_presentMembers_sublist (t.fields.zip slots)).nodup ?_
  rw [map_key_zip hx]
  exact ht.nodup

theorem decodeValue_written (ht : t.WellKeyed)
    (hx : List.Forall₂ RecordField.HoldsScalar t.fields slots) :
    decodeValue t.commandType (.object (written t slots)) = .ok slots := by
  have hz : ∀ z ∈ t.fields.zip slots, z.1.HoldsScalar z.2 :=
    fun z hmem => (List.forall₂_iff_zip.1 hx).2 hmem
  have hf : ∀ z ∈ t.fields.zip slots, z.1 ∈ t.fields := fun z hmem => mem_fields_of_mem_zip hmem
  -- Folding leaves what is written, and each field then finds what was present under its key.
  have hfold : foldKeys (written t slots) = RecordType.presentMembers (t.fields.zip slots) := by
    refine foldKeys_of_lowercase _ ?_ ?_ ?_ (nodup_keys_presentMembers ht hx)
    all_goals
      intro m hm
      obtain ⟨z, hmem, rfl, hnull⟩ := RecordType.mem_presentMembers hz hm
    · exact ht.lowercase z.1 (hf z hmem)
    · exact ht.ne_commandNameKey z.1 (hf z hmem)
    · exact hnull
  have hfill : RecordType.fill t.hasDefaults (RecordType.presentSlots (t.fields.zip slots))
      t.fields = .ok slots := by
    refine RecordType.fill_eq (List.forall₂_iff_zip.2 ⟨hx.length_eq, fun {f s} hmem => ?_⟩)
    exact RecordField.pick_eq (hz (f, s) hmem)
      (RecordType.lookup_presentSlots ((map_key_zip hx).symm ▸ ht.nodup) hmem)
  simp only [decodeValue, RecordType.commandType, RecordType.ofMembers, hfold,
    RecordType.readMembers_presentMembers ht.nodup hf hz, hfill]

/-- The text of a record reads back: its members as they are written, and the record. -/
theorem decode_text_written (ht : t.WellKeyed)
    (hx : List.Forall₂ RecordField.HoldsScalar t.fields slots) (layout : Layout) :
    Json.readWritten? (layout.text (.object (written t slots))) = some (written t slots) ∧
      decode t.commandType (layout.text (.object (written t slots))) = .ok slots := by
  have hleaf := isLeaf_written hx
  have hnodup : ((written t slots).map (·.1)).Nodup := by
    rw [written, List.map_cons, List.nodup_cons]
    refine ⟨fun hmem => ?_, nodup_keys_presentMembers ht hx⟩
    have hkey := (RecordType.keys_presentMembers_sublist (t.fields.zip slots)).subset hmem
    rw [map_key_zip hx] at hkey
    obtain ⟨f, hf, he⟩ := List.mem_map.1 hkey
    exact ht.ne_commandNameKey f hf he
  constructor
  · rw [layout.text_object hleaf]
    exact layout.spacing.readWritten?_objectText hleaf
  · rw [decode, layout.read?_text_object hleaf hnodup]
    exact decodeValue_written ht hx

end Wire

/-! ## Resolved models -/

/-- The kind of the values of a scalar type. -/
def Scalar.kind : Scalar → FieldKind
  | .string => .text
  | .integer => .integer .i64
  | .boolean => .flag

/-- The record type of a model: one field under each wire name, in schema order, with defaults.
`omits` says which absent fields are left out of the plain form. -/
def CommandModel.recordType (omits : FieldModel → Bool) (m : CommandModel) : RecordType where
  commandName := m.commandName
  fields := m.fields.filterMap fun f =>
    f.type.shape?.map fun shape => ⟨f.wireName, shape.scalar.kind, shape.optional, omits f⟩

namespace CommandModel

variable {d : CommandDef} {m : CommandModel} (omits : FieldModel → Bool)

/-- The fields of a resolved model have the shapes of those that are declared. -/
theorem Resolved.shape?_ne_none (h : Resolved d m) (hshape : ∀ f ∈ d.fields, f.type.shape? ≠ none)
    {f : FieldModel} (hf : f ∈ m.fields) : f.type.shape? ≠ none := by
  have hmem : (f.sourceName, f.type, f.docs) ∈
      d.fields.map fun f => (f.name, f.type, f.docs) :=
    h.declared ▸ List.mem_map.2 ⟨f, hf, rfl⟩
  obtain ⟨g, hg, he⟩ := List.mem_map.1 hmem
  simp only [Prod.mk.injEq] at he
  exact he.2.1 ▸ hshape g hg

/-- With a shape for every field, the keys of the record type are the wire names. -/
theorem map_key_recordType (hshape : ∀ f ∈ m.fields, f.type.shape? ≠ none) :
    (m.recordType omits).fields.map (·.key) = m.members := by
  rw [recordType, members, List.map_filterMap, ← List.filterMap_eq_map]
  refine List.filterMap_congr fun f hf => ?_
  obtain ⟨shape, hs⟩ := Option.ne_none_iff_exists'.1 (hshape f hf)
  simp [hs]

theorem Resolved.wellKeyed_recordType (h : Resolved d m)
    (hshape : ∀ f ∈ m.fields, f.type.shape? ≠ none) : (m.recordType omits).WellKeyed := by
  have hkeys := map_key_recordType omits hshape
  have hwire : ∀ f ∈ (m.recordType omits).fields, ∃ g ∈ m.fields, g.wireName = f.key := by
    intro f hf
    have hmem : f.key ∈ m.members := hkeys ▸ List.mem_map.2 ⟨f, hf, rfl⟩
    exact List.mem_map.1 hmem
  refine ⟨?_, ?_, ?_⟩
  · intro f hf
    obtain ⟨g, hg, he⟩ := hwire f hf
    exact he ▸ h.lowercase_wireName hg
  · intro f hf
    obtain ⟨g, hg, he⟩ := hwire f hf
    exact he ▸ h.fields.ne_commandNameKey g hg
  · rw [hkeys]
    exact h.fields.nodup

end CommandModel

namespace Wire

/-- **Round trip of the wire format.** For a command that resolves and whose fields are scalars or
optional scalars, every record of its type is encoded in either layout as an object whose written
members are the command name and then the present fields in schema order, and the text decodes to
the record. -/
theorem decode_encode {d : CommandDef} {m : CommandModel} (hres : CommandModel.resolve d = .ok m)
    (hshape : ∀ f ∈ d.fields, f.type.shape? ≠ none) (omits : FieldModel → Bool)
    {slots : List Slot}
    (hx : List.Forall₂ RecordField.HoldsScalar (m.recordType omits).fields slots)
    (layout : Layout) :
    let t := m.recordType omits
    let members := (commandNameKey, .string m.commandName) ::
      RecordType.presentMembers (t.fields.zip slots)
    let text := layout.text (.object members)
    t.fields.map (·.key) = m.members ∧ encode layout t.commandType slots = .ok text ∧
      Json.readWritten? text = some members ∧ decode t.commandType text = .ok slots := by
  have hr := CommandModel.resolved_of_resolve hres
  have hs : ∀ f ∈ m.fields, f.type.shape? ≠ none := fun f hf => hr.shape?_ne_none hshape hf
  have ht := hr.wellKeyed_recordType omits hs
  obtain ⟨hread, hdecode⟩ := decode_text_written ht hx layout
  exact ⟨CommandModel.map_key_recordType omits hs, encode_eq ht hx layout, hread, hdecode⟩

/-- A greeting with a text of two lines and no repeat count: only the text is written. -/
theorem decode_encode_sendGreeting :
    let d : CommandDef := ⟨"SendGreeting", none,
      [⟨"greetingText", .string, none⟩, ⟨"repeatCount", .optional .integer, none⟩]⟩
    let m : CommandModel := ⟨"SendGreeting", "send_greeting", none,
      [⟨"greetingText", "greeting_text", .string, none⟩,
        ⟨"repeatCount", "repeat_count", .optional .integer, none⟩]⟩
    let t := m.recordType fun _ => false
    let slots := [.text "Good\nday", .absent]
    let members := [(commandNameKey, Json.string "send_greeting"),
      ("greeting_text", .string "Good\nday")]
    let text := Layout.pretty.text (.object members)
    CommandModel.resolve d = .ok m ∧ (∀ f ∈ d.fields, f.type.shape? ≠ none) ∧
      List.Forall₂ RecordField.HoldsScalar t.fields slots ∧
      t.fields.map (·.key) = m.members ∧ encode .pretty t.commandType slots = .ok text ∧
      Json.readWritten? text = some members ∧ decode t.commandType text = .ok slots := by
  intro d m t slots members text
  have hres : CommandModel.resolve d = .ok m := by decide +kernel
  have hshape : ∀ f ∈ d.fields, f.type.shape? ≠ none := by decide
  have hx : List.Forall₂ RecordField.HoldsScalar t.fields slots := .cons rfl (.cons rfl .nil)
  exact ⟨hres, hshape, hx, decode_encode hres hshape (fun _ => false) hx .pretty⟩

end Wire

end CommandForge
