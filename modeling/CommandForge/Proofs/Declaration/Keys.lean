import CommandForge.Declaration.Implement
import CommandForge.Proofs.Text.Lowercase
import CommandForge.Proofs.Wire.RoundTrip
/-!
# Keys of declared types

Which keys serde gives to the fields of a type that is made a command. All names that attributes
give are lowercase then (`lowercase_of_rename?`, `mem_lowercaseRules_of_rule?`), but a field that is
not renamed has its own identifier for a key, which is not looked at. So the keys are fit for the
wire format exactly when these identifiers are lowercase and no key is that of the command name
(`implement_decodable_iff`), and else a field can be lost (`exists_lost_field`).
-/

namespace CommandForge

/-! ## Names that attributes give -/

/-- What a key is for: writing a field, or reading it. -/
inductive KeyUse where
  | serialize
  | deserialize
  deriving DecidableEq, Repr

/-- The word for the use in an attribute that tells them apart. -/
def KeyUse.word : KeyUse → String
  | .serialize => "serialize"
  | .deserialize => "deserialize"

namespace AttributeItem

open Declaration (attributeKey?)

/-- The text that an item gives to a key. -/
def textFor? (key : String) : AttributeItem → Option String
  | .text k value => if attributeKey? k = some key then some value else none
  | _ => none

/-- The texts that an item gives to a key: its own, or in a list those for the use. -/
def textsFor (key : String) (use : KeyUse) : AttributeItem → List String
  | .list k items =>
    if attributeKey? k = some key then items.filterMap (textFor? use.word) else []
  | item => (textFor? key item).toList

/-- An item that can stand in a list. -/
def isReadableInside : AttributeItem → Bool
  | .text k _ | .number k | .bare k => (attributeKey? k).isSome
  | .list .. | .junk => false

/-- An item that can be read. -/
def isReadable : AttributeItem → Bool
  | .text k _ | .number k | .bare k => (attributeKey? k).isSome
  | .list k items => (attributeKey? k).isSome && !items.isEmpty && items.all isReadableInside
  | .junk => false

variable {key k v : String} {use : KeyUse} {item : AttributeItem} {items : List AttributeItem}

theorem textFor?_eq_some (h : item.textFor? key = some v) :
    ∃ k, item = .text k v ∧ attributeKey? k = some key := by
  unfold textFor? at h
  split at h
  · split at h
    · obtain rfl := Option.some.inj h
      exact ⟨_, rfl, ‹_›⟩
    · contradiction
  · contradiction

theorem innerSettings_eq (h : ∀ item ∈ items, item.isReadableInside = true) :
    (innerSettings key items).2 = true ∧
      ∀ k v, .text k v ∈ items → ⟨key, v⟩ ∈ (innerSettings key items).1 := by
  induction items with
  | nil => simp [innerSettings]
  | cons item items ih =>
    obtain ⟨hitem, hitems⟩ := List.forall_mem_cons.1 h
    obtain ⟨hreadable, hmem⟩ := ih hitems
    cases item with
    | text k value =>
      have hkey : (attributeKey? k).isNone = false := by simpa [isReadableInside] using hitem
      simp only [innerSettings, AttributeItem.key, hkey, Bool.false_eq_true, if_false]
      refine ⟨hreadable, fun k' v' hv => ?_⟩
      rcases List.mem_cons.1 hv with heq | hv
      · obtain ⟨-, rfl⟩ := AttributeItem.text.inj heq
        exact List.mem_cons_self
      · exact List.mem_cons_of_mem _ (hmem k' v' hv)
    | number k | bare k =>
      have hkey : (attributeKey? k).isNone = false := by simpa [isReadableInside] using hitem
      simp only [innerSettings, AttributeItem.key, hkey, Bool.false_eq_true, if_false]
      refine ⟨hreadable, fun k' v' hv => hmem k' v' ?_⟩
      exact (List.mem_cons.1 hv).resolve_left (by simp)
    | list k inner => contradiction
    | junk => contradiction

/-- What a readable item gives is among its settings, and the items behind it are read. -/
theorem settings_cons (h : item.isReadable = true) (items : List AttributeItem) :
    ∃ own, settings (item :: items) = own ++ settings items ∧
      ∀ key use v, v ∈ item.textsFor key use → ⟨key, v⟩ ∈ own := by
  cases item with
  | text k value =>
    obtain ⟨name, hname⟩ := Option.isSome_iff_exists.1 (show (attributeKey? k).isSome = true from h)
    refine ⟨[⟨name, value⟩], by simp [settings, AttributeItem.key, hname], fun key use v hv => ?_⟩
    obtain ⟨k', heq, hkey⟩ := textFor?_eq_some (Option.mem_toList.1 hv)
    obtain ⟨rfl, rfl⟩ := AttributeItem.text.inj heq
    obtain rfl := Option.some.inj (hname.symm.trans hkey)
    exact List.mem_singleton_self _
  | number k | bare k =>
    obtain ⟨name, hname⟩ := Option.isSome_iff_exists.1 (show (attributeKey? k).isSome = true from h)
    exact ⟨[], by simp [settings, AttributeItem.key, hname], fun key use v hv => nomatch hv⟩
  | list k inner =>
    simp only [isReadable, Bool.and_eq_true, Bool.not_eq_true', List.all_eq_true] at h
    obtain ⟨⟨hsome, hne⟩, hinner⟩ := h
    obtain ⟨name, hname⟩ := Option.isSome_iff_exists.1 hsome
    have hsettings : (innerSettings name inner).2 = true ∧
        ∀ k v, .text k v ∈ inner → ⟨name, v⟩ ∈ (innerSettings name inner).1 :=
      innerSettings_eq hinner
    obtain ⟨hreadable, hmem⟩ := hsettings
    refine ⟨(innerSettings name inner).1, ?_, fun key use v hv => ?_⟩
    · simp [settings, AttributeItem.key, hname, hne, hreadable]
    · simp only [textsFor] at hv
      split at hv
      · rename_i hkey
        obtain rfl := Option.some.inj (hname.symm.trans hkey)
        obtain ⟨item, hitem, htext⟩ := List.mem_filterMap.1 hv
        obtain ⟨k', rfl, -⟩ := textFor?_eq_some htext
        exact hmem k' v hitem
      · contradiction
  | junk => contradiction

/-- A text that is given in readable items is among their settings. -/
theorem mem_settings_of_textsFor (h : ∀ item ∈ items, item.isReadable = true)
    (hitem : item ∈ items) (hv : v ∈ item.textsFor key use) : ⟨key, v⟩ ∈ settings items := by
  induction items with
  | nil => contradiction
  | cons first items ih =>
    obtain ⟨hfirst, hitems⟩ := List.forall_mem_cons.1 h
    obtain ⟨own, hsettings, hown⟩ := settings_cons hfirst items
    rw [hsettings, List.mem_append]
    rcases List.mem_cons.1 hitem with rfl | hitem
    · exact .inl (hown key use v hv)
    · exact .inr (ih hitems hitem)

end AttributeItem

/-- The text that attributes give to a key of serde; only one can be given. -/
def Attribute.textFor? (key : String) (use : KeyUse) (attributes : List Attribute) :
    Option String :=
  (((attributes.filter (·.isFor "serde")).flatMap (·.items)).flatMap
    (AttributeItem.textsFor key use)).head?

/-- What the attributes say to serde can be read. -/
def Attribute.AreReadable (attributes : List Attribute) : Prop :=
  ∀ a ∈ attributes, a.isFor "serde" = true → ∀ item ∈ a.items, item.isReadable = true

theorem Attribute.mem_settings_of_textFor? {key v : String} {use : KeyUse}
    {attributes : List Attribute} (h : AreReadable attributes)
    (hv : textFor? key use attributes = some v) : ⟨key, v⟩ ∈ settings attributes := by
  obtain ⟨item, hitem, htext⟩ := List.mem_flatMap.1 (List.mem_of_head? hv)
  obtain ⟨a, ha, hitem⟩ := List.mem_flatMap.1 hitem
  obtain ⟨hmem, hserde⟩ := List.mem_filter.1 ha
  refine List.mem_flatMap.2 ⟨a, hmem, ?_⟩
  rw [if_pos hserde]
  exact AttributeItem.mem_settings_of_textsFor (h a hmem hserde) hitem htext

/-! ## Keys -/

/-- What is relied on of the rules by which serde renames all fields of a type: those that keep
names lowercase leave an identifier as it is, but for dashes under the last. -/
structure RenameRules where
  rename : String → String → String
  lowercase_eq : ∀ name, rename "lowercase" name = name
  snake_eq : ∀ name, rename "snake_case" name = name
  kebab_eq : ∀ name, rename "kebab-case" name = Text.dashed name

namespace Declaration

variable {d : Declaration} {f : DeclaredField} {use : KeyUse} {text : String}

/-- The identifier of a field, without the mark of a raw one. -/
def identifier (f : DeclaredField) : String := plainName ((ident? f.name).getD "_")

/-- The name that a field is given. -/
def rename? (use : KeyUse) (f : DeclaredField) : Option String :=
  Attribute.textFor? "rename" use f.attributes

/-- The rule for the names of all fields. -/
def rule? (use : KeyUse) (d : Declaration) : Option String :=
  Attribute.textFor? "rename_all" use d.attributes

/-- The key of a field: the name it is given, or its identifier under the rule. -/
def key (rules : RenameRules) (d : Declaration) (use : KeyUse) (f : DeclaredField) : String :=
  match rename? use f with
  | some name => name
  | none =>
    match d.rule? use with
    | some rule => rules.rename rule (identifier f)
    | none => identifier f

/-- What the declaration says to serde can be read. -/
def IsReadable (d : Declaration) : Prop :=
  Attribute.AreReadable d.attributes ∧ ∀ f ∈ d.fields, Attribute.AreReadable f.attributes

instance (attributes : List Attribute) : Decidable (Attribute.AreReadable attributes) :=
  inferInstanceAs (Decidable (∀ a ∈ attributes, a.isFor "serde" = true → ∀ item ∈ a.items,
    item.isReadable = true))

instance (d : Declaration) : Decidable d.IsReadable :=
  inferInstanceAs (Decidable (Attribute.AreReadable d.attributes ∧
    ∀ f ∈ d.fields, Attribute.AreReadable f.attributes))

/-- No key is changed by the folding of keys, or taken for that of the command name. -/
def HasWireKeys (rules : RenameRules) (d : Declaration) : Prop :=
  ∀ f ∈ d.fields, ∀ use, Text.lowercase (d.key rules use f) = d.key rules use f ∧
    d.key rules use f ≠ commandNameKey

theorem complaints_of_implement (h : d.implement = .ok text) : d.complaints = [] := by
  unfold implement at h
  split at h
  · contradiction
  · split at h
    · contradiction
    · split at h
      · contradiction
      · split at h
        · exact List.isEmpty_iff.1 ‹_›
        · contradiction

theorem mem_lowercaseRules_of_rule? (h : d.implement = .ok text) (hread : d.IsReadable)
    {rule : String} (hrule : d.rule? use = some rule) : rule ∈ lowercaseRules := by
  have hmem : ⟨"rename_all", rule⟩ ∈ d.ownSettings :=
    Attribute.mem_settings_of_textFor? hread.1 hrule
  have hnone := (List.append_eq_nil_iff.1 (complaints_of_implement h)).1
  rw [List.filterMap_eq_nil_iff] at hnone
  simpa using hnone _ hmem

/-- Every name that is given is lowercase. -/
theorem lowercase_of_rename? (h : d.implement = .ok text) (hread : d.IsReadable)
    (hf : f ∈ d.fields) {name : String} (hname : rename? use f = some name) :
    Text.lowercase name = name := by
  have hmem : ⟨"rename", name⟩ ∈ d.fieldSettings :=
    List.mem_flatMap.2 ⟨f, hf, Attribute.mem_settings_of_textFor? (hread.2 f hf) hname⟩
  have hnone := (List.append_eq_nil_iff.1 (complaints_of_implement h)).2
  rw [List.filterMap_eq_nil_iff] at hnone
  simpa [eq_comm] using hnone _ hmem

theorem lowercase_rename_iff (rules : RenameRules) {rule : String} (h : rule ∈ lowercaseRules)
    (name : String) :
    Text.lowercase (rules.rename rule name) = rules.rename rule name ↔
      Text.lowercase name = name := by
  simp only [lowercaseRules, List.mem_cons, List.not_mem_nil, or_false] at h
  rcases h with rfl | rfl | rfl
  · rw [rules.lowercase_eq]
  · rw [rules.snake_eq]
  · rw [rules.kebab_eq, Text.lowercase_dashed_iff]

/-- A key is lowercase when the field is renamed, or its identifier is lowercase. -/
theorem lowercase_key_iff (rules : RenameRules) (h : d.implement = .ok text)
    (hread : d.IsReadable) (hf : f ∈ d.fields) :
    Text.lowercase (d.key rules use f) = d.key rules use f ↔
      (rename? use f = none → Text.lowercase (identifier f) = identifier f) := by
  unfold key
  cases hrename : rename? use f with
  | some name => simpa using lowercase_of_rename? h hread hf hrename
  | none =>
    cases hrule : d.rule? use with
    | none => simp
    | some rule =>
      simpa using lowercase_rename_iff rules (mem_lowercaseRules_of_rule? h hread hrule) _

/-! ## Keys on the wire -/

variable {rules : RenameRules}

/-- What is written under the keys of the fields is found again as it is. -/
theorem foldKeys_encodeMembers (h : d.HasWireKeys rules) {α : Type} {t : CommandType α} {x : α}
    {fields : List (String × Json)} (hplain : t.plain x = .ok (.object fields))
    (hn : (fields.map (·.1)).Nodup)
    (hkeys : ∀ m ∈ fields, ∃ f ∈ d.fields, m.1 = d.key rules .serialize f) :
    ∃ members, Wire.encodeMembers t x = .ok members ∧
      Wire.foldKeys members = fields.filter fun m => !m.2.isNull := by
  have hwire : ∀ m ∈ fields, Text.lowercase m.1 = m.1 ∧ m.1 ≠ commandNameKey := by
    intro m hm
    obtain ⟨f, hf, hkey⟩ := hkeys m hm
    exact hkey ▸ h f hf .serialize
  have hwritten : (fields.filter fun m => !m.2.isNull && m.1 != commandNameKey) =
      fields.filter fun m => !m.2.isNull := by
    refine List.filter_congr fun m hm => ?_
    simp [(hwire m hm).2]
  refine ⟨_, by rw [Wire.encodeMembers, hplain], ?_⟩
  rw [hwritten]
  refine Wire.foldKeys_of_lowercase _ (fun m hm => ?_) (fun m hm => ?_) (fun m hm => ?_) ?_
  · exact (hwire m (List.mem_of_mem_filter hm)).1
  · exact (hwire m (List.mem_of_mem_filter hm)).2
  · simpa using (List.mem_filter.1 hm).2
  · exact (List.filter_sublist.map _).nodup hn

theorem wellKeyed_of_hasWireKeys (h : d.HasWireKeys rules) {t : RecordType} {use : KeyUse}
    (hkeys : t.fields.map (·.key) = d.fields.map (d.key rules use))
    (hn : (t.fields.map (·.key)).Nodup) : t.WellKeyed := by
  have hwire : ∀ f ∈ t.fields, Text.lowercase f.key = f.key ∧ f.key ≠ commandNameKey := by
    intro f hf
    have hmem : f.key ∈ d.fields.map (d.key rules use) := hkeys ▸ List.mem_map_of_mem hf
    obtain ⟨g, hg, hkey⟩ := List.mem_map.1 hmem
    exact hkey ▸ h g hg use
  exact ⟨fun f hf => (hwire f hf).1, fun f hf => (hwire f hf).2, hn⟩

/-- **The keys of a type that is made a command** are fit for the wire exactly when each field that
is not renamed has a lowercase identifier, and no key is that of the command name. What is written
under such keys is all found again; and a record with one key for each field, to write and to read
it, comes back as it was. -/
theorem implement_decodable_iff (rules : RenameRules) (h : d.implement = .ok text)
    (hread : d.IsReadable) :
    (d.HasWireKeys rules ↔ ∀ f ∈ d.fields, ∀ use,
      (rename? use f = none → Text.lowercase (identifier f) = identifier f) ∧
        d.key rules use f ≠ commandNameKey) ∧
    (d.HasWireKeys rules →
      (∀ (α : Type) (t : CommandType α) (x : α) (fields : List (String × Json)),
        t.plain x = .ok (.object fields) → (fields.map (·.1)).Nodup →
        (∀ m ∈ fields, ∃ f ∈ d.fields, m.1 = d.key rules .serialize f) →
        ∃ members, Wire.encodeMembers t x = .ok members ∧
          Wire.foldKeys members = fields.filter fun m => !m.2.isNull) ∧
      ∀ (t : RecordType) (slots : List Slot) (layout : Layout),
        (∀ use, t.fields.map (·.key) = d.fields.map (d.key rules use)) →
        (t.fields.map (·.key)).Nodup →
        List.Forall₂ RecordField.HoldsScalar t.fields slots →
        ∃ encoded, Wire.encode layout t.commandType slots = .ok encoded ∧
          Wire.decode t.commandType encoded = .ok slots) := by
  refine ⟨?_, fun hwire => ⟨?_, ?_⟩⟩
  · constructor
    · intro hwire f hf use
      exact ⟨(lowercase_key_iff rules h hread hf).1 (hwire f hf use).1, (hwire f hf use).2⟩
    · intro hfields f hf use
      exact ⟨(lowercase_key_iff rules h hread hf).2 (hfields f hf use).1, (hfields f hf use).2⟩
  · intro α t x fields hplain hn hkeys
    exact foldKeys_encodeMembers hwire hplain hn hkeys
  · intro t slots layout hkeys hn hx
    have ht := wellKeyed_of_hasWireKeys hwire (hkeys .serialize) hn
    exact ⟨_, Wire.encode_eq ht hx layout, (Wire.decode_text_written ht hx layout).2⟩

theorem implement_decodable_iff_ping :
    let d : Declaration := {
      name := "Ping"
      attributes := [⟨"serde", [.text "rename_all" "kebab-case"]⟩]
      fields := [⟨"user_id", []⟩,
        ⟨"userName", [⟨"serde", [.list "rename" [.text "serialize" "name",
          .text "deserialize" "name"]]⟩]⟩] }
    let rules : RenameRules := {
      rename := fun rule name => if rule = "kebab-case" then Text.dashed name else name
      lowercase_eq := fun _ => if_neg (by decide)
      snake_eq := fun _ => if_neg (by decide)
      kebab_eq := fun _ => if_pos rfl }
    let t : RecordType :=
      ⟨"ping", [⟨"user-id", .integer .i64, false, false⟩, ⟨"name", .text, true, false⟩], true⟩
    let slots := [.integer 7, .text "Ann"]
    (∃ text, d.implement = .ok text) ∧ d.IsReadable ∧ d.HasWireKeys rules ∧
      (∀ use, t.fields.map (·.key) = d.fields.map (d.key rules use)) ∧
      List.Forall₂ RecordField.HoldsScalar t.fields slots ∧
      ∃ encoded, Wire.encode .compact t.commandType slots = .ok encoded ∧
        Wire.decode t.commandType encoded = .ok slots := by
  intro d rules t slots
  have htext : d.implement = .ok ("impl :: cmdgen :: Command for Ping " ++
      "\x7b const COMMAND_NAME : & 'static str = \"ping\" ; \x7d") := by decide +kernel
  have hread : d.IsReadable := by decide +kernel
  have hkeys : ∀ use, d.fields.map (d.key rules use) = ["user-id", "name"] := by
    intro use
    cases use <;> decide +kernel
  have hwire : d.HasWireKeys rules := by
    intro f hf use
    have hlower : ∀ k ∈ ["user-id", "name"], Text.lowercase k = k ∧ k ≠ commandNameKey := by
      decide +kernel
    exact hlower _ (hkeys use ▸ List.mem_map_of_mem hf)
  have hx : List.Forall₂ RecordField.HoldsScalar t.fields slots :=
    .cons ⟨rfl, by decide, by decide⟩ (.cons rfl .nil)
  obtain ⟨-, hrecord⟩ := (implement_decodable_iff rules htext hread).2 hwire
  have hsame : ∀ use, t.fields.map (·.key) = d.fields.map (d.key rules use) :=
    fun use => (hkeys use).symm
  exact ⟨⟨_, htext⟩, hread, hwire, hsame, hx,
    hrecord t slots .compact hsame (by decide) hx⟩

/-- A type is made a command with a field whose key is not lowercase, and one whose key is that of
the command name. The first is written and not found again, and the second is not written: both are
lost. -/
theorem exists_lost_field :
    let d : Declaration := { name := "Ping", fields := [⟨"userId", []⟩, ⟨"command_name", []⟩] }
    let t : RecordType := ⟨"ping", [⟨"userId", .integer .i64, false, false⟩,
      ⟨"command_name", .text, false, false⟩], true⟩
    let slots := [.integer 7, .text "Ann"]
    (∃ text, d.implement = .ok text) ∧ d.IsReadable ∧ (∀ rules, ¬ d.HasWireKeys rules) ∧
      (∀ rules use, t.fields.map (·.key) = d.fields.map (d.key rules use)) ∧
      List.Forall₂ RecordField.HoldsScalar t.fields slots ∧
      ∃ encoded, Wire.encode .compact t.commandType slots = .ok encoded ∧
        Wire.decode t.commandType encoded = .ok [.integer 0, .text ""] := by
  intro d t slots
  let members : List (String × Json) :=
    [("command_name", .string "ping"), ("userId", .number (.int 7))]
  have htext : d.implement = .ok ("impl :: cmdgen :: Command for Ping " ++
      "\x7b const COMMAND_NAME : & 'static str = \"ping\" ; \x7d") := by decide +kernel
  have hkey : ∀ rules use, d.key rules use ⟨"userId", []⟩ = "userId" := by
    intro rules use
    have hidentifier : identifier ⟨"userId", []⟩ = "userId" := by decide +kernel
    exact hidentifier
  have hkey' : ∀ rules use, d.key rules use ⟨"command_name", []⟩ = "command_name" := by
    intro rules use
    have hidentifier : identifier ⟨"command_name", []⟩ = "command_name" := by decide +kernel
    exact hidentifier
  have hsame : ∀ rules use, t.fields.map (·.key) = d.fields.map (d.key rules use) := by
    intro rules use
    simp only [t, d, List.map_cons, List.map_nil, hkey, hkey']
  have hlost : ∀ rules, ¬ d.HasWireKeys rules := by
    intro rules hwire
    have huserId := (hwire ⟨"userId", []⟩ List.mem_cons_self .serialize).1
    rw [hkey] at huserId
    exact absurd huserId (by decide +kernel)
  have hx : List.Forall₂ RecordField.HoldsScalar t.fields slots :=
    .cons ⟨rfl, by decide, by decide⟩ (.cons rfl .nil)
  have hleaf : ∀ m ∈ members, m.2.IsLeaf := by simp [members, Json.IsLeaf]
  have hread := Layout.compact.read?_text_object hleaf (by decide)
  have hencode : Wire.encode .compact t.commandType slots =
      .ok (Layout.compact.text (.object members)) := rfl
  have hdecode : Wire.decode t.commandType (Layout.compact.text (.object members)) =
      .ok [.integer 0, .text ""] := by
    have hname : Text.lowercase "command_name" = commandNameKey := by decide +kernel
    have huserId : Text.lowercase "userId" = "userid" := by decide +kernel
    have hfold : Wire.foldKeys members = [("userid", .number (.int 7))] := by
      simp [members, Wire.foldKeys, Wire.foldMember, Wire.putAbsent, hname, huserId,
        commandNameKey, Json.isNull, Json.put, Json.member?]
    simp only [Wire.decode, hread, Wire.decodeValue, RecordType.commandType, hfold]
    rfl
  exact ⟨⟨_, htext⟩, by decide +kernel, hlost, hsame, hx, _, hencode, hdecode⟩

end Declaration

end CommandForge
