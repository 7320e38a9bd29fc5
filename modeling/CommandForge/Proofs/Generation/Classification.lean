import CommandForge.Proofs.Generation.Independence
import CommandForge.Proofs.Target.Accepted
/-!
# Why pairs fail

The failures of a command are of the same classes in all built-in languages (`run_classifies`).
What does not resolve fails everywhere with the complaint of resolution. What resolves is looked at
by each target on its own: the name of the type, then field by field the type and the member. So a
target that complains about a type complains about the first one that no language can express
(`memberList_eq_error`), and only what has none of them is produced and can collide.
-/

namespace CommandForge

/-! ## Supported types -/

namespace FieldType

/-- A type that every language can express. -/
def IsScalar (ty : FieldType) : Prop := ty = .string ∨ ty = .integer ∨ ty = .boolean

/-- A scalar, or an optional of one. -/
def IsSupported (ty : FieldType) : Prop :=
  ty.IsScalar ∨ ∃ inner : FieldType, ty = .optional inner ∧ inner.IsScalar

theorem isScalar_iff {ty : FieldType} : ty.IsScalar ↔ ty.scalar? ≠ none := by
  cases ty <;> simp [IsScalar, scalar?]

theorem isSupported_iff {ty : FieldType} : ty.IsSupported ↔ ty.shape? ≠ none := by
  cases ty with
  | optional inner =>
    have hnot : ¬ (FieldType.optional inner).IsScalar := by simp [IsScalar]
    simp [IsSupported, hnot, isScalar_iff, shape?]
  | string | integer | boolean | custom _ => simp [IsSupported, IsScalar, shape?, scalar?]

instance : DecidablePred IsSupported := fun _ => decidable_of_iff _ isSupported_iff.symm

end FieldType

/-- The first field, in schema order, with a type that no language can express. -/
def CommandDef.unsupported? (d : CommandDef) : Option FieldDef :=
  d.fields.find? fun f => ¬ f.type.IsSupported

/-! ## Classes of failures -/

/-- The name of the command, or of a member for one of its fields, is one that the language keeps. -/
def IsReserved (d : CommandDef) (language : String) (e : EmitError) : Prop :=
  e = .reservedTypeName d.name language ∨
    ∃ f ∈ d.fields, ∃ member, e = .reservedIdentifier f.name member language

/-- The pair was produced and collides with something else. -/
def IsCollision (e : EmitError) : Prop :=
  (∃ commandName other, e = .duplicateCommandName commandName other) ∨
    ∃ path other, e = .outputCollision path other

/-- What becomes of a command in a language, by what is wrong with it in all languages. -/
structure Classified (d : CommandDef) (language : String) (o : Outcome) : Prop where
  pair_eq : o.pair = (d.name, language)
  rejected : ∀ e, CommandModel.resolve d = .error e → o = .error ⟨d.name, language, e⟩
  unsupported : ∀ m f, CommandModel.resolve d = .ok m → d.unsupported? = some f →
    ∃ e, o = .error ⟨d.name, language, e⟩ ∧
      (e = .unsupportedType f.name f.type.display language ∨ IsReserved d language e)
  supported : ∀ m failure, CommandModel.resolve d = .ok m → d.unsupported? = none →
    o = .error failure → IsReserved d language failure.error ∨ IsCollision failure.error

/-! ## One target -/

namespace Target

variable {t : Target} {typeName : String} {e : EmitError}

theorem member_eq_error {f : FieldModel} (h : t.member typeName f = .error e) :
    (¬ f.type.IsSupported ∧ e = .unsupportedType f.sourceName f.type.display t.language) ∨
      f.type.IsSupported ∧ ∃ name, e = .reservedIdentifier f.sourceName name t.language := by
  unfold member FieldModel.shape at h
  rw [FieldType.isSupported_iff]
  cases hs : f.type.shape? with
  | none =>
    simp only [hs] at h
    exact .inl ⟨by simp, (Except.error.inj h).symm⟩
  | some shape =>
    simp only [hs] at h
    split at h
    · exact .inr ⟨by simp, _, (Except.error.inj h).symm⟩
    · cases h

/-- The fields are gone through in order, so a complaint about a type is about the first that
cannot be expressed. -/
theorem memberList_eq_error {fields : List FieldModel} (h : t.memberList typeName fields = .error e) :
    (∃ f, fields.find? (fun f => ¬ f.type.IsSupported) = some f ∧
        e = .unsupportedType f.sourceName f.type.display t.language) ∨
      ∃ f ∈ fields, ∃ name, e = .reservedIdentifier f.sourceName name t.language := by
  induction fields with
  | nil => cases h
  | cons f fields ih =>
    unfold memberList at h
    cases hf : t.member typeName f with
    | error e' =>
      simp only [hf] at h
      obtain rfl := Except.error.inj h
      rcases member_eq_error hf with ⟨hnot, rfl⟩ | ⟨-, name, rfl⟩
      · exact .inl ⟨f, List.find?_cons_of_pos (by simpa using hnot), rfl⟩
      · exact .inr ⟨f, List.mem_cons_self, name, rfl⟩
    | ok x =>
      have hsupported : f.type.IsSupported := by
        obtain ⟨-, -, hshape⟩ := member_eq_ok hf
        rw [FieldType.isSupported_iff, hshape]
        simp
      simp only [hf] at h
      split at h
      · rename_i e' herror
        obtain rfl := Except.error.inj h
        rcases ih herror with ⟨g, hg, rfl⟩ | ⟨g, hg, name, rfl⟩
        · refine .inl ⟨g, ?_, rfl⟩
          rw [List.find?_cons_of_neg (by simpa using hsupported), hg]
        · exact .inr ⟨g, List.mem_cons_of_mem f hg, name, rfl⟩
      · cases h

theorem isSupported_of_memberList {fields : List FieldModel} {members : List Member}
    (h : t.memberList typeName fields = .ok members) :
    fields.find? (fun f => ¬ f.type.IsSupported) = none := by
  obtain ⟨rfl, hmembers⟩ := memberList_eq_ok h
  rw [List.find?_eq_none]
  intro f hf
  obtain ⟨x, hx, rfl⟩ := List.mem_map.1 hf
  obtain ⟨-, hshape⟩ := hmembers x hx
  simp [FieldType.isSupported_iff, hshape]

theorem language_eq {language : String} {c : Config} (h : builtin? language c = some t) :
    t.language = language := by
  unfold builtin? at h
  split at h
  case h_7 => contradiction
  all_goals
    obtain rfl := Option.some.inj h
    rfl

theorem exists_builtin? (c : Config) {language : String} (h : language ∈ builtinLanguages) :
    ∃ t, builtin? language c = some t := by
  simp only [builtinLanguages, List.mem_cons, List.not_mem_nil, or_false] at h
  rcases h with rfl | rfl | rfl | rfl | rfl | rfl <;> exact ⟨_, rfl⟩

/-! ## Resolved commands -/

section Resolved

variable {d : CommandDef} {m : CommandModel} (hm : CommandModel.Resolved d m)

include hm

theorem exists_field_of_mem {f : FieldModel} (hf : f ∈ m.fields) :
    ∃ g ∈ d.fields, g.name = f.sourceName := by
  have hmem : (f.sourceName, f.type, f.docs) ∈ d.fields.map fun g => (g.name, g.type, g.docs) :=
    hm.declared ▸ List.mem_map_of_mem hf
  obtain ⟨g, hg, he⟩ := List.mem_map.1 hmem
  exact ⟨g, hg, (Prod.mk.inj he).1⟩

/-- The first field of the model with an unsupported type is that of the definition. -/
theorem map_find?_eq : (m.fields.find? fun f => ¬ f.type.IsSupported).map
    (fun f => (f.sourceName, f.type)) = d.unsupported?.map fun f => (f.name, f.type) := by
  have hdeclared := congrArg (List.map fun f : String × FieldType × Option String => (f.1, f.2.1))
    hm.declared
  rw [List.map_map, List.map_map] at hdeclared
  have hfind := congrArg (List.find? fun f : String × FieldType => ¬ f.2.IsSupported) hdeclared
  rwa [List.find?_map, List.find?_map] at hfind

/-- All that emitting a resolved command can come to. -/
theorem emit_cases : (∃ content, t.emit m = .ok content ∧ d.unsupported? = none) ∨
    ∃ e, t.emit m = .error e ∧ ((∃ f, d.unsupported? = some f ∧
      e = .unsupportedType f.name f.type.display t.language) ∨ IsReserved d t.language e) := by
  have hfirst := map_find?_eq hm
  cases hfree : t.reservedTypes.contains m.typeName with
  | true =>
    refine .inr ⟨_, by rw [emit, if_pos hfree], .inr (.inl ?_)⟩
    rw [hm.typeName_eq]
  | false =>
    cases hmembers : t.memberList m.typeName m.fields with
    | ok members =>
      rw [isSupported_of_memberList hmembers, Option.map_none, eq_comm,
        Option.map_eq_none_iff] at hfirst
      exact .inl ⟨_, emit_eq_ok_iff.2 ⟨hfree, members, hmembers, rfl⟩, hfirst⟩
    | error e =>
      have hemit : t.emit m = .error e := by
        rw [emit, hfree, hmembers]
        rfl
      refine .inr ⟨e, hemit, ?_⟩
      rcases memberList_eq_error hmembers with ⟨f, hf, rfl⟩ | ⟨f, hf, name, rfl⟩
      · rw [hf, Option.map_some, eq_comm, Option.map_eq_some_iff] at hfirst
        obtain ⟨g, hg, he⟩ := hfirst
        obtain ⟨hname, htype⟩ := Prod.mk.inj he
        exact .inl ⟨g, hg, by rw [hname, htype]⟩
      · obtain ⟨g, hg, hname⟩ := exists_field_of_mem hm hf
        exact .inr (.inr ⟨g, hg, name, by rw [hname]⟩)

end Resolved

end Target

/-! ## Collisions -/

theorem Collision.isCollision_of_find? {produced : List Artifact} {writers : List Writer}
    {a : Artifact} {e : EmitError} (h : find? produced writers a = some e) : IsCollision e := by
  unfold find? at h
  split at h
  · exact .inl ⟨_, _, (Option.some.inj h).symm⟩
  · obtain ⟨w, -, rfl⟩ := Option.map_eq_some_iff.1 h
    exact .inr ⟨_, _, rfl⟩

namespace Generator

open Collision (settle)

variable {c : Config} {g : Generator}

/-- Collisions turn no failure into another one, and they only concern what was produced, which a
command with an unsupported type never is. -/
theorem classified_settle {d : CommandDef} {language : String} {t : Target}
    (ht : t.language = language) (produced : List Artifact) (supportFiles : List SupportArtifact) :
    Classified d language (settle produced supportFiles (outcome d language t.emitter)) := by
  have hpair : (settle produced supportFiles (outcome d language t.emitter)).pair =
      (d.name, language) := by
    rw [Collision.pair_settle, pair_outcome]
  subst ht
  cases hm : CommandModel.resolve d with
  | error e =>
    have ho : settle produced supportFiles (outcome d t.language t.emitter) =
        .error ⟨d.name, t.language, e⟩ := by
      simp only [outcome, hm, settle]
    refine ⟨hpair, fun e' he' => ?_, ?_, ?_⟩
    · obtain rfl := Except.error.inj (hm.symm.trans he')
      exact ho
    · intro m f hm'
      cases hm.symm.trans hm'
    · intro m failure hm'
      cases hm.symm.trans hm'
  | ok m =>
    have hrejected : ∀ e, CommandModel.resolve d ≠ .error e := by
      intro e he
      cases hm.symm.trans he
    rcases Target.emit_cases (t := t) (CommandModel.resolved_of_resolve hm) with
      ⟨content, hemit, hnone⟩ | ⟨e, hemit, hclass⟩
    · -- The pair is produced, so all that can be said against it is a collision.
      refine ⟨hpair, fun e he => absurd he (hrejected e), ?_, ?_⟩
      · intro m' f _ hf
        cases hnone.symm.trans hf
      · intro m' failure _ _ ho
        simp only [outcome, hm, Target.emitter, hemit, settle] at ho
        split at ho
        · rename_i error hfind
          obtain rfl := Except.error.inj ho
          exact .inr (Collision.isCollision_of_find? hfind)
        · cases ho
    · have ho : settle produced supportFiles (outcome d t.language t.emitter) =
          .error ⟨d.name, t.language, e⟩ := by
        simp only [outcome, hm, Target.emitter, hemit, settle]
      refine ⟨hpair, fun e he => absurd he (hrejected e), ?_, ?_⟩
      · intro m' f _ hf
        refine ⟨e, ho, hclass.imp_left ?_⟩
        rintro ⟨f', hf', rfl⟩
        obtain rfl := Option.some.inj (hf.symm.trans hf')
        rfl
      · intro m' failure _ hnone ho'
        obtain rfl := Except.error.inj (ho.symm.trans ho')
        rcases hclass with ⟨f, hf, -⟩ | hreserved
        · cases hnone.symm.trans hf
        · exact .inl hreserved

/-! ## All pairs -/

theorem outcomes_eq_map (g : Generator) (commands : List CommandDef) :
    g.outcomes commands =
      (commands ×ˢ g.emitters).map fun p => outcome p.1 p.2.1 p.2.2 := by
  simp [outcomes, SProd.sprod, List.product, List.map_flatMap, Function.comp_def]

theorem product_languages (g : Generator) (commands : List CommandDef) :
    commands ×ˢ g.languages = (commands ×ˢ g.emitters).map fun p => (p.1, p.2.1) := by
  simp [languages, SProd.sprod, List.product, List.map_flatMap, Function.comp_def]

theorem mem_languages_insertSorted {language l : String} {e : Emitter}
    {emitters : List (String × Emitter)} :
    l ∈ (insertSorted language e emitters).map (·.1) ↔
      l = language ∨ l ∈ emitters.map (·.1) := by
  induction emitters with
  | nil => simp [insertSorted]
  | cons p rest ih =>
    unfold insertSorted
    split
    · rename_i heq
      simp [heq]
    · split
      · simp
      · simp only [List.map_cons, List.mem_cons, ih]
        tauto

theorem mem_languages_foldl {languages : List String} {l : String}
    (hl : ∀ l ∈ languages, l ∈ builtinLanguages) :
    l ∈ (languages.foldl (registerBuiltin c) g).languages ↔ l ∈ g.languages ∨ l ∈ languages := by
  induction languages generalizing g with
  | nil => simp
  | cons language languages ih =>
    obtain ⟨hlanguage, hrest⟩ := List.forall_mem_cons.1 hl
    have hregister : l ∈ (registerBuiltin c g language).languages ↔
        l = language ∨ l ∈ g.languages := by
      obtain ⟨t, ht⟩ := Target.exists_builtin? c hlanguage
      simp only [registerBuiltin, ht]
      exact mem_languages_insertSorted
    rw [List.foldl_cons, ih hrest, hregister, List.mem_cons]
    tauto

theorem mem_builtinLanguages_of_ofConfig (hg : ofConfig c = .ok g) {l : String}
    (hl : l ∈ c.languages) : l ∈ builtinLanguages := by
  have hfault : c.fault? = none := by
    unfold ofConfig Config.check at hg
    cases hfault : c.fault? with
    | none => rfl
    | some fault =>
      rw [hfault] at hg
      cases hg
  unfold Config.fault? at hfault
  split at hfault
  · cases hfault
  · cases hfind : c.languages.find? fun l => !builtinLanguages.contains l with
    | some language =>
      rw [hfind] at hfault
      cases hfault
    | none => simpa using List.find?_eq_none.1 hfind l hl

theorem mem_languages_ofConfig (hg : ofConfig c = .ok g) {l : String} :
    l ∈ g.languages ↔ l ∈ c.languages := by
  have hbuiltin : ∀ l ∈ c.languages, l ∈ builtinLanguages :=
    fun l hl => mem_builtinLanguages_of_ofConfig hg hl
  unfold ofConfig at hg
  split at hg
  · cases hg
  · obtain rfl := Except.ok.inj hg
    rw [mem_languages_foldl hbuiltin]
    simp [languages]

/-- Every pair of a command and a configured language has its outcome in the report of a built-in
generator, and what is wrong with the command alone decides which failures it can be. -/
theorem run_classifies (hg : ofConfig c = .ok g) (commands : List CommandDef) :
    (∀ l, l ∈ g.languages ↔ l ∈ c.languages) ∧
      ∃ settled : List Outcome, g.run commands = .ofOutcomes settled g.supportFiles ∧
        List.Forall₂ (fun p o => Classified p.1 p.2 o) (commands ×ˢ g.languages) settled := by
  refine ⟨fun l => mem_languages_ofConfig hg, _, rfl, ?_⟩
  rw [Collision.reject_eq_map, outcomes_eq_map, product_languages, List.map_map,
    List.forall₂_map_left_iff, List.forall₂_map_right_iff, List.forall₂_same]
  rintro ⟨d, language, e⟩ hp
  have he : (language, e) ∈ g.emitters := (List.mem_product.1 hp).2
  obtain ⟨-, t, ht, rfl⟩ := mem_emitters_ofConfig hg he
  exact classified_settle (Target.language_eq ht) _ _

theorem run_classifies_upload :
    let dashed : CommandDef := ⟨"Up-load", none, []⟩
    let upload : CommandDef :=
      ⟨"Upload", none, [⟨"path", .string, none⟩, ⟨"data", .optional (.custom "Blob"), none⟩]⟩
    let plain : CommandDef := ⟨"Ping", none, [⟨"id", .optional .integer, none⟩]⟩
    let c : Config := { languages := ["rust", "java"] }
    (∃ e, CommandModel.resolve dashed = .error e) ∧
      upload.unsupported? = some ⟨"data", .optional (.custom "Blob"), none⟩ ∧
      plain.unsupported? = none ∧
      ∃ g, ofConfig c = .ok g ∧ (∀ l, l ∈ g.languages ↔ l ∈ c.languages) ∧
        ∃ settled : List Outcome,
          g.run [dashed, upload, plain] = .ofOutcomes settled g.supportFiles ∧
          List.Forall₂ (fun p o => Classified p.1 p.2 o)
            ([dashed, upload, plain] ×ˢ g.languages) settled := by
  intro dashed upload plain c
  have hdashed : CommandModel.resolve dashed =
      .error (.invalidIdentifier ⟨"Up-load", .unexpected '-'⟩) := by decide +kernel
  obtain ⟨g, hg⟩ := exists_ofConfig (c := c) (by decide +kernel)
  exact ⟨⟨_, hdashed⟩, by decide +kernel, by decide +kernel, g, hg, run_classifies hg _⟩

end Generator

end CommandForge
