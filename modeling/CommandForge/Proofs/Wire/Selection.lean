import Mathlib.Data.List.Nodup
import CommandForge.Proofs.Lists
import CommandForge.Proofs.Wire.RoundTrip
/-!
# Which member a field takes

For each field an object has at most one member that counts: the one spelled exactly like the key
if its value is not null, and else the first member of another letter case whose value is not null
(`selectedMember?`). Key folding keeps exactly its value under the key (`member?_foldKeys`), so
decoding a record of scalars is reading the selected values, and no other member has any influence
(`decodeValue_selects`).
-/

namespace CommandForge

namespace Wire

/-! ## The member that counts -/

/-- The member is spelled like the key and is not null. -/
def isExact (key : String) (m : String × Json) : Bool := m.1 = key && !m.2.isNull

/-- The member has the key in some letter case and is not null. -/
def isSpelling (key : String) (m : String × Json) : Bool := Text.lowercase m.1 = key && !m.2.isNull

/-- The member that counts for a key: the one that is spelled like it, and otherwise the first one
that has it in another letter case. Null does not count. -/
def selectedMember? (key : String) (members : List (String × Json)) : Option (String × Json) :=
  (members.find? (isExact key)).or (members.find? (isSpelling key))

/-- The value of the member that counts for a key. -/
def selected? (key : String) (members : List (String × Json)) : Option Json :=
  (selectedMember? key members).map (·.2)

variable {key : String} {members : List (String × Json)}

theorem isNull_eq_false_of_selected? {v : Json} (h : selected? key members = some v) :
    v.isNull = false := by
  obtain ⟨m, hm, rfl⟩ := Option.map_eq_some_iff.1 h
  rw [selectedMember?, Option.or_eq_some_iff] at hm
  rcases hm with hm | ⟨-, hm⟩
  · have hp := List.find?_some hm
    simpa using (Bool.and_eq_true_iff.1 hp).2
  · have hp := List.find?_some hm
    simpa using (Bool.and_eq_true_iff.1 hp).2

/-! ## Key folding -/

theorem member?_putAbsent {w : String} {v : Json} {ms : List (String × Json)} :
    Json.member? w (putAbsent key v ms) =
      if key = w then (Json.member? w ms).or (some v) else Json.member? w ms := by
  unfold putAbsent
  by_cases hk : key = w
  · subst hk
    cases hm : Json.member? key ms with
    | none => simp [Json.member?_put]
    | some u => simp [hm]
  · rw [if_neg hk]
    split
    · rfl
    · rw [Json.member?_put, if_neg hk]

/-- One step of the folding, as seen under one lowercase key. -/
theorem member?_foldMember (hl : Text.lowercase key = key) (hk : key ≠ commandNameKey)
    (folded : List (String × Json)) (m : String × Json) :
    Json.member? key (foldMember folded m) =
      if isExact key m then some m.2
      else if isSpelling key m then (Json.member? key folded).or (some m.2)
      else Json.member? key folded := by
  obtain ⟨spelling, v⟩ := m
  by_cases hnull : v.isNull = true
  · simp [foldMember, isExact, isSpelling, hnull]
  have hexact : isExact key (spelling, v) = decide (spelling = key) := by simp [isExact, hnull]
  have hspelling : isSpelling key (spelling, v) = decide (Text.lowercase spelling = key) := by
    simp [isSpelling, hnull]
  simp only [hexact, hspelling, decide_eq_true_eq, foldMember]
  by_cases hname : Text.lowercase spelling = commandNameKey
  · -- The command name is no field's key, in whatever spelling.
    have hne : Text.lowercase spelling ≠ key := fun he => hk (he ▸ hname)
    have hne' : spelling ≠ key := fun he => hne (he ▸ hl)
    rw [if_pos (.inl hname), if_neg hne', if_neg hne]
  rw [if_neg (not_or.2 ⟨hname, hnull⟩)]
  by_cases hown : Text.lowercase spelling = spelling
  · rw [if_pos hown, Json.member?_put]
    simp only [hown]
    by_cases he : spelling = key
    · rw [if_pos he, if_pos he]
    · rw [if_neg he, if_neg he, if_neg he]
  · have hne : spelling ≠ key := fun he => hown (he ▸ hl)
    rw [if_neg hown, if_neg hne, member?_putAbsent]

/-- The folding of different members onto what is folded already: an exact spelling wins over
everything, what is there already wins over other spellings, and of those the first one wins. -/
theorem member?_foldl_foldMember (hl : Text.lowercase key = key) (hk : key ≠ commandNameKey)
    (hn : (members.map (·.1)).Nodup) (folded : List (String × Json)) :
    Json.member? key (members.foldl foldMember folded) =
      ((members.find? (isExact key)).map (·.2)).or
        ((Json.member? key folded).or ((members.find? (isSpelling key)).map (·.2))) := by
  induction members generalizing folded with
  | nil => simp
  | cons m members ih =>
    rw [List.map_cons, List.nodup_cons] at hn
    rw [List.foldl_cons, ih hn.2, member?_foldMember hl hk, List.find?_cons, List.find?_cons]
    by_cases hexact : isExact key m = true
    · -- No later member has the same key, so the exact spelling stays.
      have hnone : members.find? (isExact key) = none := by
        rw [List.find?_eq_none]
        intro n hmem hexact'
        simp only [isExact, Bool.and_eq_true, decide_eq_true_eq] at hexact hexact'
        exact hn.1 (List.mem_map.2 ⟨n, hmem, hexact'.1.trans hexact.1.symm⟩)
      simp [hexact, hnone]
    · by_cases hspelling : isSpelling key m = true
      · simp [hexact, hspelling]
      · simp [hexact, hspelling]

/-- Folding keeps under a field's key the value that counts for it. -/
theorem member?_foldKeys (hl : Text.lowercase key = key) (hk : key ≠ commandNameKey)
    (hn : (members.map (·.1)).Nodup) :
    Json.member? key (foldKeys members) = selected? key members := by
  rw [foldKeys, member?_foldl_foldMember hl hk hn, selected?, selectedMember?]
  cases members.find? (isExact key) <;> simp [Json.member?]

theorem nodup_keys_foldMember {folded : List (String × Json)} (h : (folded.map (·.1)).Nodup)
    (m : String × Json) : ((foldMember folded m).map (·.1)).Nodup := by
  simp only [foldMember, putAbsent]
  split
  · exact h
  · split
    · exact Json.nodup_keys_put h
    · split
      · exact h
      · exact Json.nodup_keys_put h

theorem nodup_keys_foldKeys (members : List (String × Json)) :
    ((foldKeys members).map (·.1)).Nodup := by
  suffices h : ∀ folded : List (String × Json), (folded.map (·.1)).Nodup →
      ((members.foldl foldMember folded).map (·.1)).Nodup from h [] (by simp)
  induction members with
  | nil => exact fun _ h => h
  | cons m members ih => exact fun folded h => ih _ (nodup_keys_foldMember h m)

/-! ## Members that do not count -/

theorem selectedMember?_eq_of_sublist {kept : List (String × Json)} (h : kept.Sublist members)
    (hn : (members.map (·.1)).Nodup)
    (hkept : ∀ m, selectedMember? key members = some m → m ∈ kept) :
    selectedMember? key kept = selectedMember? key members := by
  have hn : members.Nodup := hn.of_map
  cases hexact : members.find? (isExact key) with
  | some m =>
    have hsame : kept.find? (isExact key) = members.find? (isExact key) := by
      refine find?_eq_of_sublist h hn fun n hfind => hkept n ?_
      rw [selectedMember?, hfind, Option.some_or]
    rw [selectedMember?, selectedMember?, hsame, hexact, Option.some_or, Option.some_or]
  | none =>
    have hsame : kept.find? (isSpelling key) = members.find? (isSpelling key) := by
      refine find?_eq_of_sublist h hn fun n hfind => hkept n ?_
      rw [selectedMember?, hexact, hfind, Option.none_or]
    have hnone : kept.find? (isExact key) = none := by
      rw [List.find?_eq_none] at hexact ⊢
      exact fun n hmem => hexact n (h.subset hmem)
    rw [selectedMember?, selectedMember?, hsame, hexact, hnone]

end Wire

/-! ## Scalars -/

/-- The kinds of the scalar types. -/
def FieldKind.IsScalar (kind : FieldKind) : Prop :=
  kind = .text ∨ kind = .integer .i64 ∨ kind = .flag

/-- The value has the type of the kind: a text, a whole number within the range, or a flag. -/
def FieldKind.Admits : FieldKind → Json → Prop
  | .text, .string _ => True
  | .integer range, .number (.int n) => range.least ≤ n ∧ n ≤ range.greatest
  | .flag, .bool _ => True
  | _, _ => False

namespace RecordField

variable {f : RecordField} {slot slot' : Slot}

/-- The slot is what the field takes from the value that counts for it: that value, or without one
nothing for an optional field and the default of its kind for another. -/
def Takes (f : RecordField) : Option Json → Slot → Prop
  | some v, slot => f.HoldsScalar slot ∧ slot.plain = v
  | none, slot => slot = if f.optional then .absent else f.kind.default

theorem takes_of_read {v : Json} (hs : f.kind.IsScalar) (h : f.kind.read v = .ok slot) :
    f.kind.Admits v ∧ f.Takes (some v) slot := by
  generalize hk : f.kind = kind at hs h
  unfold FieldKind.read at h
  split at h
  · obtain rfl := Except.ok.inj h
    exact ⟨trivial, hk, rfl⟩
  · simp at h
  · split at h
    · rename_i range n hrange
      obtain rfl := Except.ok.inj h
      obtain rfl : range = .i64 := by simpa [FieldKind.IsScalar] using hs
      exact ⟨hrange, ⟨hk, hrange⟩, rfl⟩
    · simp at h
  · simp at h
  · obtain rfl := Except.ok.inj h
    exact ⟨trivial, hk, rfl⟩
  · simp at h
  all_goals simp [FieldKind.IsScalar] at hs

theorem exists_read_of_admits {kind : FieldKind} {v : Json} (h : kind.Admits v) :
    ∃ slot, kind.read v = .ok slot := by
  unfold FieldKind.Admits at h
  split at h
  · exact ⟨_, rfl⟩
  · exact ⟨_, if_pos h⟩
  · exact ⟨_, rfl⟩
  · exact h.elim

theorem read_of_not_null (f : RecordField) {v : Json} (hv : v.isNull = false) :
    f.read v = f.kind.read v := by
  simp [read, hv]

theorem read_of_takes {v : Json} (hv : v.isNull = false) (h : f.Takes (some v) slot) :
    f.read v = .ok slot := by
  obtain ⟨hslot, rfl⟩ := h
  have hp : slot.present? = some slot := by rw [present?_eq hslot, hv]; rfl
  exact read_plain hslot hp

/-- A field takes one slot. -/
theorem Takes.unique {given : Option Json} (hnull : ∀ v, given = some v → v.isNull = false)
    (h : f.Takes given slot) (h' : f.Takes given slot') : slot = slot' := by
  cases given with
  | none => exact h.trans h'.symm
  | some v =>
    have hread := read_of_takes (hnull v rfl) h
    have hread' := read_of_takes (hnull v rfl) h'
    exact Except.ok.inj (hread.symm.trans hread')

end RecordField

/-! ## Reading a record -/

/-- A field that was given what the value that counts for it reads as, or nothing if there is no
such value, picks the slot that it takes. -/
theorem RecordField.pick_of_rel {f : RecordField} (hs : f.kind.IsScalar) {hasDefaults : Bool}
    (hd : hasDefaults = true) {selected : Option Json} {given : List (String × Slot)}
    (hnull : ∀ v, selected = some v → v.isNull = false)
    (h : Option.Rel (fun v slot => f.read v = .ok slot) selected (given.lookup f.key)) :
    ∃ slot, f.pick hasDefaults given = .ok slot ∧ f.Takes selected slot ∧
      ∀ v, selected = some v → f.kind.Admits v := by
  unfold pick
  generalize given.lookup f.key = found at h
  cases h with
  | none =>
    refine ⟨if f.optional then .absent else f.kind.default, ?_, rfl, fun v hv => by simp at hv⟩
    simp only [missing, hd, ↓reduceIte]
    split
    · rfl
    · rfl
  | some hread =>
    rename_i v slot
    rw [f.read_of_not_null (hnull v rfl)] at hread
    obtain ⟨hadmits, htakes⟩ := takes_of_read hs hread
    exact ⟨slot, rfl, htakes, fun u hu => Option.some.inj hu ▸ hadmits⟩

namespace RecordType

/-- All that reading members can come to: each field is given what its member reads as, or some
member does not read. -/
theorem readMembers_cases {fields : List RecordField} (hn : (fields.map (·.key)).Nodup)
    (ms : List (String × Json)) :
    (∃ given, readMembers fields ms = .ok given ∧
        ∀ f ∈ fields, Option.Rel (fun v slot => f.read v = .ok slot) (Json.member? f.key ms)
          (given.lookup f.key)) ∨
      ∃ fault, readMembers fields ms = .error fault ∧
        ∃ f ∈ fields, ∃ v, (f.key, v) ∈ ms ∧ f.read v = .error fault := by
  induction ms with
  | nil => exact .inl ⟨[], rfl, fun f _ => .none⟩
  | cons m ms ih =>
    obtain ⟨key, v⟩ := m
    cases hfind : fields.find? (·.key = key) with
    | none =>
      -- The member names no field, so nothing is given for it and no field looks it up.
      have hread : readMembers fields ((key, v) :: ms) = readMembers fields ms := by
        simp only [readMembers, hfind]
      have hne : ∀ f ∈ fields, key ≠ f.key := by
        intro f hf he
        have := List.find?_eq_none.1 hfind f hf
        exact this (by simp [he])
      rw [hread]
      rcases ih with ⟨given, hgiven, hrel⟩ | ⟨fault, hfault, f, hf, u, hmem, hu⟩
      · refine .inl ⟨given, hgiven, fun f hf => ?_⟩
        rw [Json.member?, if_neg (hne f hf)]
        exact hrel f hf
      · exact .inr ⟨fault, hfault, f, hf, u, List.mem_cons_of_mem _ hmem, hu⟩
    | some g =>
      have hg : g ∈ fields := List.mem_of_find?_eq_some hfind
      obtain rfl : g.key = key := by simpa using List.find?_some hfind
      cases hv : g.read v with
      | error fault =>
        refine .inr ⟨fault, ?_, g, hg, v, List.mem_cons_self, hv⟩
        simp only [readMembers, hfind, hv]
      | ok slot =>
        rcases ih with ⟨given, hgiven, hrel⟩ | ⟨fault, hfault, f, hf, u, hmem, hu⟩
        · refine .inl ⟨(g.key, slot) :: given, ?_, fun f hf => ?_⟩
          · simp only [readMembers, hfind, hv, hgiven]
          · by_cases he : g.key = f.key
            · have hfg : f = g := List.inj_on_of_nodup_map hn hf hg he.symm
              subst hfg
              simpa [Json.member?, List.lookup_cons] using Option.Rel.some hv
            · have hlookup : ((g.key, slot) :: given).lookup f.key = given.lookup f.key := by
                rw [List.lookup_cons, beq_eq_false_iff_ne.2 (Ne.symm he)]
              rw [Json.member?, if_neg he, hlookup]
              exact hrel f hf
        · refine .inr ⟨fault, ?_, f, hf, u, List.mem_cons_of_mem _ hmem, hu⟩
          simp only [readMembers, hfind, hv, hfault]

end RecordType

namespace Wire

variable {t : RecordType} {members : List (String × Json)}

/-- All that decoding an object can come to: the fields take the values that count for them, or one
of these values does not have the type of its field. -/
theorem decodeValue_object_cases (ht : t.WellKeyed) (hd : t.hasDefaults = true)
    (hs : ∀ f ∈ t.fields, f.kind.IsScalar) (hn : (members.map (·.1)).Nodup) :
    (∃ slots, decodeValue t.commandType (.object members) = .ok slots ∧
        List.Forall₂ (fun f slot => f.Takes (selected? f.key members) slot) t.fields slots ∧
        ∀ f ∈ t.fields, ∀ v, selected? f.key members = some v → f.kind.Admits v) ∨
      ∃ fault, decodeValue t.commandType (.object members) = .error (.decode fault) ∧
        ∃ f ∈ t.fields, ∃ v, selected? f.key members = some v ∧ ¬ f.kind.Admits v := by
  have hselected : ∀ f ∈ t.fields,
      Json.member? f.key (foldKeys members) = selected? f.key members := fun f hf =>
    member?_foldKeys (ht.lowercase f hf) (ht.ne_commandNameKey f hf) hn
  rcases RecordType.readMembers_cases ht.nodup (foldKeys members) with
    ⟨given, hgiven, hrel⟩ | ⟨fault, hfault, f, hf, v, hmem, hv⟩
  · have hpick : ∀ f ∈ t.fields, ∃ slot, f.pick t.hasDefaults given = .ok slot ∧
        f.Takes (selected? f.key members) slot ∧
          ∀ v, selected? f.key members = some v → f.kind.Admits v := by
      intro f hf
      have hf' := hrel f hf
      rw [hselected f hf] at hf'
      exact f.pick_of_rel (hs f hf) hd (fun v => isNull_eq_false_of_selected?) hf'
    have : Nonempty Slot := ⟨.absent⟩
    choose! slot hslot htakes hadmits using hpick
    refine .inl ⟨t.fields.map slot, ?_, ?_, hadmits⟩
    · have hfill : RecordType.fill t.hasDefaults given t.fields = .ok (t.fields.map slot) :=
        RecordType.fill_eq (List.forall₂_map_right_iff.2 (List.forall₂_same.2 hslot))
      simp only [decodeValue, RecordType.commandType, RecordType.ofMembers, hgiven, hfill]
    · exact List.forall₂_map_right_iff.2 (List.forall₂_same.2 htakes)
  · have hsel : selected? f.key members = some v := by
      rw [← hselected f hf]
      exact Json.member?_of_mem (nodup_keys_foldKeys members) hmem
    refine .inr ⟨.json fault, ?_, f, hf, v, hsel, fun hadmits => ?_⟩
    · simp only [decodeValue, RecordType.commandType, RecordType.ofMembers, hfault]
    · obtain ⟨slot, hslot⟩ := RecordField.exists_read_of_admits hadmits
      rw [f.read_of_not_null (isNull_eq_false_of_selected? hsel), hslot] at hv
      simp at hv

theorem eq_of_takes {slots slots' : List Slot}
    (h : List.Forall₂ (fun f slot => f.Takes (selected? f.key members) slot) t.fields slots)
    (h' : List.Forall₂ (fun f slot => f.Takes (selected? f.key members) slot) t.fields slots') :
    slots = slots' := by
  have hunique : Relator.RightUnique fun (f : RecordField) slot =>
      f.Takes (selected? f.key members) slot := fun _ _ _ htakes htakes' =>
    RecordField.Takes.unique (fun _ => isNull_eq_false_of_selected?) htakes htakes'
  exact List.right_unique_forall₂' hunique h h'

/-- Objects in which the same values count decode alike, up to the fault that is reported. -/
theorem toOption_decodeValue_eq (ht : t.WellKeyed) (hd : t.hasDefaults = true)
    (hs : ∀ f ∈ t.fields, f.kind.IsScalar) {kept : List (String × Json)}
    (hn : (members.map (·.1)).Nodup) (hn' : (kept.map (·.1)).Nodup)
    (h : ∀ f ∈ t.fields, selected? f.key kept = selected? f.key members) :
    (decodeValue t.commandType (.object kept)).toOption =
      (decodeValue t.commandType (.object members)).toOption := by
  rcases decodeValue_object_cases ht hd hs hn' with
    ⟨slots', hok', htakes', hadmits'⟩ | ⟨fault', herror', f', hf', v', hsel', hnot'⟩
  · rcases decodeValue_object_cases ht hd hs hn with
      ⟨slots, hok, htakes, -⟩ | ⟨fault, -, f, hf, v, hsel, hnot⟩
    · have htakes' : List.Forall₂ (fun f slot => f.Takes (selected? f.key members) slot)
          t.fields slots' := by
        refine List.forall₂_iff_zip.2 ⟨htakes'.length_eq, fun {f slot} hmem => ?_⟩
        rw [← h f (List.of_mem_zip hmem).1]
        exact List.forall₂_zip htakes' hmem
      rw [hok, hok', eq_of_takes htakes htakes']
    · exact absurd (hadmits' f hf v ((h f hf).trans hsel)) hnot
  · rcases decodeValue_object_cases ht hd hs hn with
      ⟨slots, -, -, hadmits⟩ | ⟨fault, herror, -⟩
    · exact absurd (hadmits f' hf' v' ((h f' hf').symm.trans hsel')) hnot'
    · rw [herror, herror']
      rfl

/-- **Decoding computes the selection.** A record of scalars with defaults decodes from an object
exactly when every value that counts has the type of its field; then each field has that value, or
without one its default or nothing; and otherwise decoding fails as such. Leaving out members that
do not count for any field changes nothing. -/
theorem decodeValue_selects {t : RecordType} (ht : t.WellKeyed) (hd : t.hasDefaults = true)
    (hs : ∀ f ∈ t.fields, f.kind.IsScalar) {members : List (String × Json)}
    (hn : (members.map (·.1)).Nodup) :
    let decoded := decodeValue t.commandType (.object members)
    ((∃ slots, decoded = .ok slots) ↔
        ∀ f ∈ t.fields, ∀ v, selected? f.key members = some v → f.kind.Admits v) ∧
      (∀ slots, decoded = .ok slots →
        List.Forall₂ (fun f slot => f.Takes (selected? f.key members) slot) t.fields slots) ∧
      ((¬ ∃ slots, decoded = .ok slots) → ∃ fault, decoded = .error (.decode fault)) ∧
      ∀ kept : List (String × Json), kept.Sublist members →
        (∀ f ∈ t.fields, ∀ m, selectedMember? f.key members = some m → m ∈ kept) →
          (decodeValue t.commandType (.object kept)).toOption = decoded.toOption := by
  intro decoded
  have hcases := decodeValue_object_cases ht hd hs hn
  refine ⟨?_, ?_, ?_, ?_⟩
  · rcases hcases with ⟨slots, hok, -, hadmits⟩ | ⟨fault, herror, f, hf, v, hsel, hnot⟩
    · exact ⟨fun _ => hadmits, fun _ => ⟨slots, hok⟩⟩
    · constructor
      · rintro ⟨slots, hok⟩
        simp [decoded, herror] at hok
      · exact fun hadmits => absurd (hadmits f hf v hsel) hnot
  · intro slots hok
    rcases hcases with ⟨slots', hok', htakes, -⟩ | ⟨fault, herror, -⟩
    · obtain rfl := Except.ok.inj (hok'.symm.trans hok)
      exact htakes
    · simp [decoded, herror] at hok
  · intro hnot
    rcases hcases with ⟨slots, hok, -⟩ | ⟨fault, herror, -⟩
    · exact absurd ⟨slots, hok⟩ hnot
    · exact ⟨fault, herror⟩
  · intro kept hsub hkept
    refine toOption_decodeValue_eq ht hd hs hn (hn.sublist (hsub.map _)) fun f hf => ?_
    rw [selected?, selected?, selectedMember?_eq_of_sublist hsub hn (hkept f hf)]

/-- A key that is spelled exactly wins over an earlier spelling, a null does not count, and neither
does the name; so two of the six members are all that matters. -/
theorem decodeValue_selects_spellings :
    let t : RecordType := ⟨"send", [⟨"größe", .integer .i64, false, false⟩,
      ⟨"text", .text, true, false⟩, ⟨"urgent", .flag, false, false⟩], true⟩
    let members : List (String × Json) := [("GRÖßE", .number (.int 1)), ("Text", .string "first"),
      ("COMMAND_NAME", .bool true), ("größe", .number (.int 2)), ("text", .null),
      ("TEXT", .string "second")]
    let kept : List (String × Json) := [("Text", .string "first"), ("größe", .number (.int 2))]
    let decoded := decodeValue t.commandType (.object members)
    t.WellKeyed ∧ t.hasDefaults = true ∧ (∀ f ∈ t.fields, f.kind.IsScalar) ∧
      (members.map (·.1)).Nodup ∧ kept.Sublist members ∧
      (∀ f ∈ t.fields, ∀ m, selectedMember? f.key members = some m → m ∈ kept) ∧
      ((∃ slots, decoded = .ok slots) ↔
        ∀ f ∈ t.fields, ∀ v, selected? f.key members = some v → f.kind.Admits v) ∧
      (∀ slots, decoded = .ok slots →
        List.Forall₂ (fun f slot => f.Takes (selected? f.key members) slot) t.fields slots) ∧
      ((¬ ∃ slots, decoded = .ok slots) → ∃ fault, decoded = .error (.decode fault)) ∧
      (decodeValue t.commandType (.object kept)).toOption = decoded.toOption := by
  intro t members kept decoded
  have ht : t.WellKeyed :=
    ⟨by decide +kernel, by decide +kernel, by decide +kernel⟩
  have hs : ∀ f ∈ t.fields, f.kind.IsScalar := by
    simp [t, FieldKind.IsScalar]
  have hn : (members.map (·.1)).Nodup := by decide +kernel
  have hsub : kept.Sublist members :=
    .cons _ (.cons_cons _ (.cons _ (.cons_cons _ (.cons _ (.cons _ .slnil)))))
  have hlower : members.map (Text.lowercase ·.1) =
      ["größe", "text", "command_name", "größe", "text", "text"] := by decide +kernel
  simp only [members, List.map_cons, List.map_nil, List.cons.injEq] at hlower
  have hkept : ∀ f ∈ t.fields, ∀ m, selectedMember? f.key members = some m → m ∈ kept := by
    simp [t, members, kept, selectedMember?, List.find?, isExact, isSpelling, Json.isNull, hlower]
  obtain ⟨hok, htakes, herror, hother⟩ := decodeValue_selects ht rfl hs hn
  exact ⟨ht, rfl, hs, hn, hsub, hkept, hok, htakes, herror, hother kept hsub hkept⟩

end Wire

end CommandForge
