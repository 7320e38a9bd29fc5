import CommandForge.Proofs.Lists
import CommandForge.Proofs.Schema.Loaded
import CommandForge.Proofs.Text.Trimmed
/-!
# The schema format

What the members of a schema define (`Defines`) and what can be wrong with them (`Offends`), said
of the values alone. Reading a schema computes exactly this: each function of the reader comes to
one of two ends, which exclude each other (`command_cases`), and a list of members comes to the
first fault in it (`commands_cases`). The documentation is found by its key and aligned with the
fields by position, so it may stand anywhere in a body and be too long (`command_eq_of_alike`).
-/

namespace CommandForge.Schema

open Json (member?)

/-! ## The format -/

/-- The value is a text. -/
def IsText (v : Json) : Prop := ∃ s, v = .string s

/-- The value is an array of texts. -/
def IsTexts (v : Json) : Prop := ∃ texts : List String, v = .array (texts.map .string)

/-- The value is the body of a command: an object whose documentation, if there is one, is an array
of texts, and all of whose other members are texts. -/
def IsBody (v : Json) : Prop :=
  ∃ body, v = .object body ∧ (∀ w, member? aboutKey body = some w → IsTexts w) ∧
    ∀ m ∈ fieldMembers body, IsText m.2

/-- The documentation of the body is these texts; none stand for no documentation. -/
def IsAbout (body : List (String × Json)) (texts : List String) : Prop :=
  match member? aboutKey body with
  | none => texts = []
  | some v => v = .array (texts.map .string)

/-- The documentation at a place of a list. An entry of blank characters documents nothing. -/
def docsAt (texts : List String) (i : Nat) : Option String :=
  texts[i]?.filter fun s => !s.toList.all Text.isBlank

/-- A member of a body that gives a field the type that the text spells. -/
def textMember (field : String × String) : String × Json := (field.1, .string field.2)

/-- The command of a name with documentation and fields: the first documentation entry is that of
the command, and the others are those of the fields in order. -/
def described (name : String) (texts : List String) (fields : List (String × String)) :
    CommandDef where
  name := name
  docs := some ((docsAt texts 0).getD (name ++ " command."))
  fields := fields.mapIdx fun j f => ⟨f.1, FieldType.parse f.2, docsAt texts (j + 1)⟩

/-- The member is the definition of the command. -/
def Defines (m : String × Json) (d : CommandDef) : Prop :=
  ∃ (body : List (String × Json)) (texts : List String) (fields : List (String × String)),
    m.2 = .object body ∧ IsAbout body texts ∧
    fieldMembers body = fields.map textMember ∧ d = described m.1 texts fields

/-- The first thing that is wrong with the member. The documentation comes before the fields. -/
inductive Offends (m : String × Json) : SchemaFault → Prop
  | body (h : ∀ body, m.2 ≠ .object body) : Offends m (.bodyNotObject m.1)
  | about {body v} (hbody : m.2 = .object body) (habout : member? aboutKey body = some v)
      (hv : ¬ IsTexts v) : Offends m (.aboutNotTexts m.1)
  | field {body texts name v after} {before : List (String × String)}
      (hbody : m.2 = .object body) (habout : IsAbout body texts)
      (hfields : fieldMembers body = before.map textMember ++ (name, v) :: after)
      (hv : ¬ IsText v) : Offends m (.typeNotText name m.1)

/-! ## Documentation -/

theorem aboutEntry_eq (s : String) :
    aboutEntry s = (some s).filter fun s => !s.toList.all Text.isBlank := by
  rw [aboutEntry, Text.isEmpty_trim]
  cases h : s.toList.all Text.isBlank <;> simp [Option.filter, h]

theorem join_getElem?_map_aboutEntry (texts : List String) (i : Nat) :
    (texts.map aboutEntry)[i]?.join = docsAt texts i := by
  rw [List.getElem?_map, docsAt]
  cases texts[i]? with
  | none => rfl
  | some s => exact aboutEntry_eq s

theorem nextDocs_map_aboutEntry (texts : List String) :
    nextDocs (texts.map aboutEntry) = docsAt texts 0 := by
  rw [nextDocs, ← join_getElem?_map_aboutEntry, List.head?_eq_getElem?]

theorem map_string_injective : Function.Injective (List.map Json.string) :=
  List.map_injective_iff.2 fun _ _ h => Json.string.inj h

theorem aboutEntries_cases (command : String) (items : List Json) :
    (∃ texts : List String, items = texts.map .string ∧
        aboutEntries command items = .ok (texts.map aboutEntry)) ∨
      ¬ IsTexts (.array items) ∧ aboutEntries command items = .error (.aboutNotTexts command) := by
  induction items with
  | nil => exact .inl ⟨[], rfl, rfl⟩
  | cons v items ih =>
    cases v with
    | string s =>
      rcases ih with ⟨texts, rfl, hok⟩ | ⟨hnot, herror⟩
      · exact .inl ⟨s :: texts, rfl, by rw [aboutEntries, hok, List.map_cons]⟩
      · refine .inr ⟨?_, by rw [aboutEntries, herror]⟩
        rintro ⟨texts, htexts⟩
        cases texts with
        | nil => cases htexts
        | cons t texts =>
          have hrest := (List.cons.inj (Json.array.inj htexts)).2
          exact hnot ⟨texts, congrArg Json.array hrest⟩
    | null | bool _ | number _ | array _ | object _ =>
      refine .inr ⟨?_, rfl⟩
      rintro ⟨texts, htexts⟩
      cases texts with
      | nil => cases htexts
      | cons t texts => cases (List.cons.inj (Json.array.inj htexts)).1

theorem about_cases (command : String) (body : List (String × Json)) :
    (∃ texts, IsAbout body texts ∧ about command body = .ok (texts.map aboutEntry)) ∨
      (∃ v, member? aboutKey body = some v ∧ ¬ IsTexts v) ∧
        about command body = .error (.aboutNotTexts command) := by
  unfold IsAbout about
  cases hv : member? aboutKey body with
  | none => exact .inl ⟨[], rfl, rfl⟩
  | some v =>
    cases v with
    | array items =>
      rcases aboutEntries_cases command items with ⟨texts, rfl, hok⟩ | ⟨hnot, herror⟩
      · exact .inl ⟨texts, rfl, hok⟩
      · exact .inr ⟨⟨_, rfl, hnot⟩, herror⟩
    | null | bool _ | number _ | string _ | object _ =>
      refine .inr ⟨⟨_, rfl, ?_⟩, rfl⟩
      rintro ⟨texts, htexts⟩
      cases htexts

theorem IsAbout.isTexts {body : List (String × Json)} {texts : List String}
    (h : IsAbout body texts) {v : Json} (hv : member? aboutKey body = some v) : IsTexts v := by
  rw [IsAbout, hv] at h
  exact ⟨texts, h⟩

theorem IsAbout.unique {body : List (String × Json)} {texts texts' : List String}
    (h : IsAbout body texts) (h' : IsAbout body texts') : texts = texts' := by
  unfold IsAbout at h h'
  cases hv : member? aboutKey body with
  | none =>
    rw [hv] at h h'
    exact h.trans h'.symm
  | some v =>
    rw [hv] at h h'
    exact map_string_injective (Json.array.inj (h.symm.trans h'))

/-! ## Fields -/

theorem textMember_injective : Function.Injective (List.map textMember) := by
  refine List.map_injective_iff.2 fun f f' h => ?_
  obtain ⟨hname, htype⟩ := Prod.mk.inj h
  exact Prod.ext hname (Json.string.inj htype)

theorem isText_textMember (f : String × String) : IsText (textMember f).2 := ⟨f.2, rfl⟩

/-- All that reading the fields of a body can come to: the fields, each with the entry at its place,
or the first member whose type is no text. -/
theorem fields_cases (command : String) (entries : List (Option String))
    (body : List (String × Json)) :
    (∃ fs : List (String × String), fieldMembers body = fs.map textMember ∧
        fields command entries body = .ok
          (fs.mapIdx fun j f => ⟨f.1, FieldType.parse f.2, entries[j]?.join⟩)) ∨
      ∃ (before : List (String × String)) (name : String) (v : Json) (after : List (String × Json)),
        fieldMembers body = before.map textMember ++ (name, v) :: after ∧ ¬ IsText v ∧
          fields command entries body = .error (.typeNotText name command) := by
  induction body generalizing entries with
  | nil => exact .inl ⟨[], rfl, rfl⟩
  | cons m body ih =>
    obtain ⟨name, v⟩ := m
    by_cases hname : name = aboutKey
    · unfold fields
      rw [if_pos hname, fieldMembers, List.filter_cons_of_neg (by simpa using hname)]
      exact ih entries
    · unfold fields
      rw [if_neg hname, fieldMembers, List.filter_cons_of_pos (by simpa using hname)]
      cases v with
      | string type =>
        rcases ih (entries.drop 1) with ⟨fs, hfs, hok⟩ | ⟨before, n, w, after, hfs, hw, herror⟩
        · refine .inl ⟨(name, type) :: fs, congrArg (List.cons _) hfs, ?_⟩
          -- One entry is taken from the front for each field, so entry and place go together.
          rw [List.mapIdx_cons]
          simp only [hok]
          simp only [nextDocs, List.head?_eq_getElem?, List.getElem?_drop, Nat.add_comm 1]
        · refine .inr ⟨(name, type) :: before, n, w, after, congrArg (List.cons _) hfs, hw, ?_⟩
          simp only [herror]
      | null | bool _ | number _ | array _ | object _ =>
        refine .inr ⟨[], name, _, _, rfl, ?_, rfl⟩
        rintro ⟨s, hs⟩
        cases hs

/-- The first member that is no text is determined. -/
theorem eq_of_textMembers_append {before before' : List (String × String)} {m m' : String × Json}
    {after after' : List (String × Json)} (hm : ¬ IsText m.2) (hm' : ¬ IsText m'.2)
    (h : before.map textMember ++ m :: after = before'.map textMember ++ m' :: after') :
    m = m' := by
  induction before generalizing before' with
  | nil =>
    cases before' with
    | nil => exact (List.cons.inj h).1
    | cons f before' =>
      obtain rfl : m = textMember f := (List.cons.inj h).1
      exact absurd (isText_textMember f) hm
  | cons f before ih =>
    cases before' with
    | nil =>
      obtain rfl : textMember f = m' := (List.cons.inj h).1
      exact absurd (isText_textMember f) hm'
    | cons f' before' => exact ih (List.cons.inj h).2

/-! ## Commands -/

variable {m : String × Json} {d d' : CommandDef} {e e' : SchemaFault}

/-- All that reading a member can come to. -/
theorem command_cases (m : String × Json) :
    (∃ d, Defines m d ∧ command m.1 m.2 = .ok d) ∨
      ∃ e, Offends m e ∧ command m.1 m.2 = .error e := by
  cases hbody : m.2 with
  | object body =>
    rcases about_cases m.1 body with ⟨texts, habout, hok⟩ | ⟨⟨v, hv, hnot⟩, herror⟩
    · rcases fields_cases m.1 ((texts.map aboutEntry).drop 1) body with
        ⟨fs, hfs, hfields⟩ | ⟨before, name, v, after, hfs, hv, hfields⟩
      · refine .inl ⟨described m.1 texts fs, ⟨body, texts, fs, hbody, habout, hfs, rfl⟩, ?_⟩
        simp only [command, hok, hfields, nextDocs_map_aboutEntry, List.getElem?_drop,
          join_getElem?_map_aboutEntry, Nat.add_comm 1, described]
      · exact .inr ⟨_, .field hbody habout hfs hv, by simp only [command, hok, hfields]⟩
    · exact .inr ⟨_, .about hbody hv hnot, by rw [command, herror]⟩
  | null | bool _ | number _ | string _ | array _ =>
    exact .inr ⟨_, .body (by simp [hbody]), rfl⟩

theorem Defines.isBody (h : Defines m d) : IsBody m.2 := by
  obtain ⟨body, texts, fs, hbody, habout, hfs, -⟩ := h
  refine ⟨body, hbody, fun v hv => habout.isTexts hv, fun n hn => ?_⟩
  rw [hfs] at hn
  obtain ⟨f, -, rfl⟩ := List.mem_map.1 hn
  exact isText_textMember f

theorem Defines.unique (h : Defines m d) (h' : Defines m d') : d = d' := by
  obtain ⟨body, texts, fs, hbody, habout, hfs, rfl⟩ := h
  obtain ⟨body', texts', fs', hbody', habout', hfs', rfl⟩ := h'
  obtain rfl := Json.object.inj (hbody.symm.trans hbody')
  obtain rfl := habout.unique habout'
  obtain rfl := textMember_injective (hfs.symm.trans hfs')
  rfl

theorem Offends.not_isBody (h : Offends m e) : ¬ IsBody m.2 := by
  rintro ⟨body, hbody, habout, hfields⟩
  cases h with
  | body hnot => exact hnot body hbody
  | about hbody' hv hnot =>
    obtain rfl := Json.object.inj (hbody.symm.trans hbody')
    exact hnot (habout _ hv)
  | field hbody' _ hfs hnot =>
    obtain rfl := Json.object.inj (hbody.symm.trans hbody')
    exact hnot (hfields _ (hfs ▸ List.mem_append_right _ List.mem_cons_self))

theorem Offends.unique (h : Offends m e) (h' : Offends m e') : e = e' := by
  cases h with
  | body hnot =>
    cases h' with
    | body => rfl
    | about hbody => exact absurd hbody (hnot _)
    | field hbody => exact absurd hbody (hnot _)
  | about hbody hv hnot =>
    cases h' with
    | body hnot' => exact absurd hbody (hnot' _)
    | about => rfl
    | field hbody' habout =>
      obtain rfl := Json.object.inj (hbody.symm.trans hbody')
      exact absurd (habout.isTexts hv) hnot
  | field hbody habout hfs hv =>
    cases h' with
    | body hnot' => exact absurd hbody (hnot' _)
    | about hbody' hv' hnot =>
      obtain rfl := Json.object.inj (hbody.symm.trans hbody')
      exact absurd (habout.isTexts hv') hnot
    | field hbody' _ hfs' hv' =>
      obtain rfl := Json.object.inj (hbody.symm.trans hbody')
      obtain ⟨rfl, -⟩ := Prod.mk.inj (eq_of_textMembers_append hv hv' (hfs.symm.trans hfs'))
      rfl

theorem command_eq_ok_iff : command m.1 m.2 = .ok d ↔ Defines m d := by
  rcases command_cases m with ⟨d', hd', hok⟩ | ⟨e, he, herror⟩
  · rw [hok, Except.ok.injEq]
    exact ⟨fun h => h ▸ hd', fun h => hd'.unique h⟩
  · rw [herror]
    exact ⟨fun h => (by cases h), fun h => absurd h.isBody he.not_isBody⟩

/-! ## Members -/

/-- The fault is that of the first member that is no definition. -/
def OffendsFirst (members : List (String × Json)) (e : SchemaFault) : Prop :=
  ∃ before m after, members = before ++ m :: after ∧ (∀ n ∈ before, IsBody n.2) ∧ Offends m e

theorem commands_cases (members : List (String × Json)) :
    (∃ ds, List.Forall₂ Defines members ds ∧ commands members = .ok ds) ∨
      ∃ e, OffendsFirst members e ∧ commands members = .error e := by
  induction members with
  | nil => exact .inl ⟨[], .nil, rfl⟩
  | cons m members ih =>
    rcases command_cases m with ⟨d, hd, hok⟩ | ⟨e, he, herror⟩
    · rcases ih with ⟨ds, hds, hrest⟩ | ⟨e, ⟨before, n, after, rfl, hbefore, he⟩, hrest⟩
      · exact .inl ⟨d :: ds, .cons hd hds, by rw [commands, hok, hrest]⟩
      · refine .inr ⟨e, ⟨m :: before, n, after, rfl, ?_, he⟩, by rw [commands, hok, hrest]⟩
        exact List.forall_mem_cons.2 ⟨hd.isBody, hbefore⟩
    · exact .inr ⟨e, ⟨[], m, members, rfl, by simp, he⟩, by rw [commands, herror]⟩

theorem OffendsFirst.unique {members : List (String × Json)} (h : OffendsFirst members e)
    (h' : OffendsFirst members e') : e = e' := by
  obtain ⟨before, m, after, rfl, hbefore, he⟩ := h
  obtain ⟨before', m', after', hmembers, hbefore', he'⟩ := h'
  induction before generalizing before' with
  | nil =>
    cases before' with
    | nil =>
      obtain rfl : m = m' := (List.cons.inj hmembers).1
      exact he.unique he'
    | cons n before' =>
      obtain rfl : m = n := (List.cons.inj hmembers).1
      exact absurd (hbefore' m List.mem_cons_self) he.not_isBody
  | cons n before ih =>
    cases before' with
    | nil =>
      obtain rfl : n = m' := (List.cons.inj hmembers).1
      exact absurd (hbefore n List.mem_cons_self) he'.not_isBody
    | cons n' before' =>
      exact ih (fun k hk => hbefore k (List.mem_cons_of_mem n hk)) before'
        (List.cons.inj hmembers).2 fun k hk => hbefore' k (List.mem_cons_of_mem n' hk)

theorem OffendsFirst.exists_not_isBody {members : List (String × Json)}
    (h : OffendsFirst members e) : ∃ m ∈ members, ¬ IsBody m.2 := by
  obtain ⟨before, m, after, rfl, -, he⟩ := h
  exact ⟨m, List.mem_append_right _ List.mem_cons_self, he.not_isBody⟩

theorem commands_eq_ok_iff {members : List (String × Json)} {ds : List CommandDef} :
    commands members = .ok ds ↔ List.Forall₂ Defines members ds := by
  have hunique : Relator.RightUnique Defines := fun _ _ _ h h' => h.unique h'
  rcases commands_cases members with ⟨ds', hds', hok⟩ | ⟨e, he, herror⟩
  · rw [hok, Except.ok.injEq]
    exact ⟨fun h => h ▸ hds', fun h => hunique.forall₂ hds' h⟩
  · rw [herror]
    refine ⟨fun h => (by cases h), fun h => ?_⟩
    obtain ⟨m, hm, hnot⟩ := he.exists_not_isBody
    obtain ⟨d, -, hd⟩ := exists_right_of_forall₂ h hm
    exact absurd hd.isBody hnot

theorem commands_eq_error_iff {members : List (String × Json)} :
    commands members = .error e ↔ OffendsFirst members e := by
  rcases commands_cases members with ⟨ds, hds, hok⟩ | ⟨e', he', herror⟩
  · rw [hok]
    refine ⟨fun h => (by cases h), fun h => ?_⟩
    obtain ⟨m, hm, hnot⟩ := h.exists_not_isBody
    obtain ⟨d, -, hd⟩ := exists_right_of_forall₂ hds hm
    exact absurd hd.isBody hnot
  · rw [herror, Except.error.injEq]
    exact ⟨fun h => h ▸ he', fun h => he'.unique h⟩

theorem exists_defines_iff {members : List (String × Json)} :
    (∃ ds, List.Forall₂ Defines members ds) ↔ ∀ m ∈ members, IsBody m.2 := by
  constructor
  · rintro ⟨ds, hds⟩ m hm
    obtain ⟨d, -, hd⟩ := exists_right_of_forall₂ hds hm
    exact hd.isBody
  · intro h
    rcases commands_cases members with ⟨ds, hds, -⟩ | ⟨e, he, -⟩
    · exact ⟨ds, hds⟩
    · obtain ⟨m, hm, hnot⟩ := he.exists_not_isBody
      exact absurd (h m hm) hnot

/-! ## Where the documentation stands, and how long it is -/

/-- The bodies have the same fields in the same order, and the same documentation, wherever it
stands; behind the entries for the command and all fields it may differ. -/
def Alike (body body' : List (String × Json)) : Prop :=
  fieldMembers body = fieldMembers body' ∧
    (member? aboutKey body = member? aboutKey body' ∨
      ∃ texts texts' : List String, member? aboutKey body = some (.array (texts.map .string)) ∧
        member? aboutKey body' = some (.array (texts'.map .string)) ∧
        texts.take ((fieldMembers body).length + 1) =
          texts'.take ((fieldMembers body).length + 1))

theorem docsAt_take {texts : List String} {n i : Nat} (h : i < n) :
    docsAt (texts.take n) i = docsAt texts i := by
  rw [docsAt, docsAt, List.getElem?_take_of_lt h]

/-- Documentation behind the entry of the last field does not count. -/
theorem described_take (name : String) (texts : List String) (fs : List (String × String)) :
    described name (texts.take (fs.length + 1)) fs = described name texts fs := by
  have hfields : (fs.mapIdx fun j f => (⟨f.1, FieldType.parse f.2,
      docsAt (texts.take (fs.length + 1)) (j + 1)⟩ : FieldDef)) =
      fs.mapIdx fun j f => ⟨f.1, FieldType.parse f.2, docsAt texts (j + 1)⟩ := by
    refine List.ext_getElem (by simp) fun j hj _ => ?_
    rw [List.length_mapIdx] at hj
    simp only [List.getElem_mapIdx]
    rw [docsAt_take (by omega)]
  rw [described, described, hfields, docsAt_take (by omega)]

theorem command_eq_of_alike {name : String} {body body' : List (String × Json)}
    (h : Alike body body') : command name (.object body) = command name (.object body') := by
  obtain ⟨hfields, habout⟩ := h
  rcases command_cases (name, .object body) with
    ⟨d, ⟨_, texts, fs, hbody, htexts, hfs, rfl⟩, hok⟩ | ⟨e, he, herror⟩
  · obtain rfl := Json.object.inj hbody
    rw [hok, eq_comm]
    refine command_eq_ok_iff (m := (name, _)).2 ?_
    rcases habout with hsame | ⟨texts₁, texts₂, h₁, h₂, htake⟩
    · exact ⟨body', texts, fs, rfl, by rwa [IsAbout, ← hsame], hfields ▸ hfs, rfl⟩
    · obtain rfl : texts = texts₁ := by
        rw [IsAbout, h₁] at htexts
        exact (map_string_injective (Json.array.inj htexts)).symm
      refine ⟨body', texts₂, fs, rfl, by rw [IsAbout, h₂], hfields ▸ hfs, ?_⟩
      have hlength : (fieldMembers body).length = fs.length := by rw [hfs, List.length_map]
      rw [hlength] at htake
      rw [← described_take, htake, described_take]
  · have he' : Offends (name, .object body') e := by
      cases he with
      | body hnot => exact absurd rfl (hnot body)
      | about hbody hv hnot =>
        obtain rfl := Json.object.inj hbody
        rcases habout with hsame | ⟨texts₁, texts₂, h₁, h₂, htake⟩
        · exact .about rfl (hsame ▸ hv) hnot
        · rw [h₁] at hv
          exact absurd ⟨texts₁, (Option.some.inj hv).symm⟩ hnot
      | field hbody htexts hfs hv =>
        obtain rfl := Json.object.inj hbody
        rw [hfields] at hfs
        rcases habout with hsame | ⟨texts₁, texts₂, h₁, h₂, htake⟩
        · exact .field rfl (by rwa [IsAbout, ← hsame]) hfs hv
        · have htexts₂ : IsAbout body' texts₂ := by rw [IsAbout, h₂]
          exact .field rfl htexts₂ hfs hv
    rcases command_cases (name, .object body') with ⟨d, hd, -⟩ | ⟨e'', he'', herror'⟩
    · exact absurd hd.isBody he'.not_isBody
    · rw [herror, herror', he'.unique he'']

/-- The schemas have the same names in the same order, with bodies that are alike. -/
def SameCommands (m m' : String × Json) : Prop :=
  m.1 = m'.1 ∧ ∃ body body', m.2 = .object body ∧ m'.2 = .object body' ∧ Alike body body'

theorem commands_eq_of_sameCommands {members members' : List (String × Json)}
    (h : List.Forall₂ SameCommands members members') : commands members = commands members' := by
  induction h with
  | nil => rfl
  | @cons m m' _ _ hm _ ih =>
    obtain ⟨name, v⟩ := m
    obtain ⟨name', v'⟩ := m'
    obtain ⟨rfl, body, body', rfl, rfl, halike⟩ := hm
    rw [commands, commands, command_eq_of_alike halike, ih]

/-! ## Texts -/

/-- The bodies of the schema are alike to those of the other under the same names. -/
def SameSchema (v v' : Json) : Prop :=
  ∃ members members', v = .object members ∧ v' = .object members' ∧
    List.Forall₂ SameCommands members members'

/-- **Reading a schema follows the format.** It succeeds exactly when the value is an object of
bodies, with the commands that its members define, in order; otherwise it reports that the value is
no object, or the fault of the first member that is no definition. A schema with the same fields
and, up to the entries that no field takes, the same documentation gives the same. -/
theorem parse_follows_format {text : String} {v : Json} (h : Json.read? text = some v) :
    ((∃ ds, parse text = .ok ds) ↔
        ∃ members, v = .object members ∧ ∀ m ∈ members, IsBody m.2) ∧
      (∀ ds, parse text = .ok ds ↔
        ∃ members, v = .object members ∧ List.Forall₂ Defines members ds) ∧
      (∀ e, parse text = .error e ↔ (e = .notObject ∧ ∀ members, v ≠ .object members) ∨
        ∃ members, v = .object members ∧ OffendsFirst members e) ∧
      ∀ text' v', Json.read? text' = some v' → SameSchema v v' → parse text' = parse text := by
  have hok : ∀ ds, parse text = .ok ds ↔
      ∃ members, v = .object members ∧ List.Forall₂ Defines members ds := by
    intro ds
    cases v with
    | object members => simp [parse, h, commands_eq_ok_iff]
    | null | bool _ | number _ | string _ | array _ => simp [parse, h]
  have herror : ∀ e, parse text = .error e ↔ (e = .notObject ∧ ∀ members, v ≠ .object members) ∨
      ∃ members, v = .object members ∧ OffendsFirst members e := by
    intro e
    cases v with
    | object members => simp [parse, h, commands_eq_error_iff]
    | null | bool _ | number _ | string _ | array _ => simp [parse, h, eq_comm]
  refine ⟨?_, hok, herror, ?_⟩
  · simp only [hok, ← exists_defines_iff]
    constructor
    · rintro ⟨ds, members, hv, hds⟩
      exact ⟨members, hv, ds, hds⟩
    · rintro ⟨members, hv, ds, hds⟩
      exact ⟨ds, members, hv, hds⟩
  · rintro text' v' h' ⟨members, members', rfl, rfl, hsame⟩
    simp only [parse, h, h', commands_eq_of_sameCommands hsame]

/-- The documentation between two fields, with a blank entry for the first of them and one entry
too many, gives what the entries that count give in front. -/
theorem parse_follows_format_ping :
    let text :=
      "\x7b\"Ping\":\x7b\"id\":\"int\",\"ABOUT\":[\"Hi\",\" \",\"W\",\"?\"],\"to\":\"str\"\x7d\x7d"
    let text' :=
      "\x7b\"Ping\":\x7b\"ABOUT\":[\"Hi\",\" \",\"W\"],\"id\":\"int\",\"to\":\"str\"\x7d\x7d"
    let texts := ["Hi", " ", "W"]
    let id := ("id", Json.string "int")
    let target := ("to", Json.string "str")
    let body := [id, ("ABOUT", .array ((texts ++ ["?"]).map .string)), target]
    let body' := [("ABOUT", .array (texts.map .string)), id, target]
    let v := Json.object [("Ping", .object body)]
    let v' := Json.object [("Ping", .object body')]
    let ds : List CommandDef :=
      [⟨"Ping", some "Hi", [⟨"id", .integer, none⟩, ⟨"to", .string, some "W"⟩]⟩]
    Json.read? text = some v ∧ Json.read? text' = some v' ∧ SameSchema v v' ∧ parse text = .ok ds ∧
      ((∃ ds, parse text = .ok ds) ↔
        ∃ members, v = .object members ∧ ∀ m ∈ members, IsBody m.2) ∧
      (∀ ds, parse text = .ok ds ↔
        ∃ members, v = .object members ∧ List.Forall₂ Defines members ds) ∧
      (∀ e, parse text = .error e ↔ (e = .notObject ∧ ∀ members, v ≠ .object members) ∨
        ∃ members, v = .object members ∧ OffendsFirst members e) ∧
      parse text' = parse text := by
  intro text text' texts id target body body' v v' ds
  -- The reader runs on closed texts, so what the names stand for is put in first.
  have hread : Json.read? text = some v := by
    subst v body target id texts text
    with_unfolding_all rfl
  have hread' : Json.read? text' = some v' := by
    subst v' body' target id texts text'
    with_unfolding_all rfl
  have halike : Alike body body' := ⟨rfl, .inr ⟨texts ++ ["?"], texts, rfl, rfl, rfl⟩⟩
  have hsame : SameSchema v v' := ⟨_, _, rfl, rfl, .cons ⟨rfl, _, _, rfl, rfl, halike⟩ .nil⟩
  have hds : parse text = .ok ds := by decide +kernel
  obtain ⟨hsucceeds, hok, herror, hother⟩ := parse_follows_format hread
  have hsame' : parse text' = parse text := hother text' v' hread' hsame
  exact ⟨hread, hread', hsame, hds, hsucceeds, hok, herror, hsame'⟩

end CommandForge.Schema
