import Mathlib.Data.List.Basic
import CommandForge.Proofs.Command.Resolved
import CommandForge.Proofs.Identifier.Valid
/-!
# Which definitions resolve

A definition resolves exactly when its names are identifiers and those of its fields are free and
different once they are normalized (`Resolvable`); otherwise the first field that does not fit
behind those before it is refused (`Refuses`). Resolution goes over the fields with the resolved
ones at hand, and these are always the fields gone over so far with their normalized names
(`FieldDef.resolved`). So one field decides what its step does (`FieldModel.resolve_eq_ok_iff`,
`FieldModel.resolve_eq_error_iff`), and the first step that fails decides the run.
-/

namespace CommandForge

open Identifier (IsIdentifier HasFault normalized normalize_eq_ok_iff_isIdentifier
  normalize_eq_error_iff)

/-! ## Fields that fit and fields that do not -/

/-- The field with its normalized name. -/
def FieldDef.resolved (f : FieldDef) : FieldModel := ⟨f.name, normalized f.name, f.type, f.docs⟩

/-- The names of the fields are identifiers. Once they are normalized, none is the key of the
command name and no two are the same. -/
structure Resolvable (fields : List FieldDef) : Prop where
  isIdentifier : ∀ f ∈ fields, IsIdentifier f.name
  ne_commandNameKey : ∀ f ∈ fields, normalized f.name ≠ commandNameKey
  nodup : (fields.map fun f => normalized f.name).Nodup

/-- The complaint about the field behind the fields `before`. A field that repeats a name repeats
that of one field only. -/
inductive Refuses (before : List FieldDef) (f : FieldDef) : EmitError → Prop
  | invalid {fault : IdentifierFault} (h : HasFault f.name fault) :
      Refuses before f (.invalidIdentifier ⟨f.name, fault⟩)
  | reserved (h : IsIdentifier f.name) (hkey : normalized f.name = commandNameKey) :
      Refuses before f (.commandNameCollision f.name)
  | repeated {first : FieldDef} {front back : List FieldDef} (h : IsIdentifier f.name)
      (hkey : normalized f.name ≠ commandNameKey) (hbefore : before = front ++ first :: back)
      (hfirst : normalized first.name = normalized f.name)
      (honly : ∀ g ∈ front ++ back, normalized g.name ≠ normalized f.name) :
      Refuses before f (.duplicateMember first.name f.name (normalized f.name))

/-- The complaint about the first of the fields `rest` that does not fit behind those before it. The
fields `front` stand before all of them. -/
def RefusesFirst (front rest : List FieldDef) (e : EmitError) : Prop :=
  ∃ middle f back, rest = middle ++ f :: back ∧ Resolvable (front ++ middle) ∧
    Refuses (front ++ middle) f e

theorem Resolvable.nil : Resolvable [] := ⟨by simp, by simp, by simp⟩

theorem resolvable_append_iff {front back : List FieldDef} : Resolvable (front ++ back) ↔
    Resolvable front ∧ Resolvable back ∧
      ∀ f ∈ front, ∀ g ∈ back, normalized f.name ≠ normalized g.name := by
  constructor
  · rintro ⟨hid, hkey, hnodup⟩
    rw [List.forall_mem_append] at hid hkey
    rw [List.map_append, List.nodup_append] at hnodup
    refine ⟨⟨hid.1, hkey.1, hnodup.1⟩, ⟨hid.2, hkey.2, hnodup.2.1⟩, fun f hf g hg => ?_⟩
    exact hnodup.2.2 _ (List.mem_map_of_mem hf) _ (List.mem_map_of_mem hg)
  · rintro ⟨hfront, hback, hne⟩
    refine ⟨List.forall_mem_append.2 ⟨hfront.isIdentifier, hback.isIdentifier⟩,
      List.forall_mem_append.2 ⟨hfront.ne_commandNameKey, hback.ne_commandNameKey⟩, ?_⟩
    rw [List.map_append, List.nodup_append]
    refine ⟨hfront.nodup, hback.nodup, fun w hw v hv => ?_⟩
    obtain ⟨f, hf, rfl⟩ := List.mem_map.1 hw
    obtain ⟨g, hg, rfl⟩ := List.mem_map.1 hv
    exact hne f hf g hg

section OneField

variable {before : List FieldDef} {f : FieldDef} {e : EmitError}

theorem resolvable_snoc_iff : Resolvable (before ++ [f]) ↔
    Resolvable before ∧ IsIdentifier f.name ∧ normalized f.name ≠ commandNameKey ∧
      ∀ g ∈ before, normalized g.name ≠ normalized f.name := by
  have hsingle : Resolvable [f] ↔ IsIdentifier f.name ∧ normalized f.name ≠ commandNameKey :=
    ⟨fun h => ⟨h.isIdentifier f List.mem_cons_self, h.ne_commandNameKey f List.mem_cons_self⟩,
      fun h => ⟨by simpa using h.1, by simpa using h.2, by simp⟩⟩
  rw [resolvable_append_iff, hsingle]
  simp only [List.mem_singleton, forall_eq, and_assoc]

/-- A field is not both refused and fit. -/
theorem Refuses.not_resolvable (h : Refuses before f e) : ¬ Resolvable (before ++ [f]) := by
  rw [resolvable_snoc_iff]
  rintro ⟨-, hid, hfree, hne⟩
  cases h with
  | invalid hfault => exact hfault.not_isIdentifier hid
  | reserved _ hkey => exact hfree hkey
  | repeated _ _ hbefore hfirst => exact hne _ (by simp [hbefore]) hfirst

/-- Among fields with different names, the search for a name finds the only field that has it. -/
theorem find?_eq_some_iff_only (hbefore : Resolvable before) {w : String} {first : FieldDef} :
    before.find? (fun g => normalized g.name = w) = some first ↔
      ∃ front back, before = front ++ first :: back ∧ normalized first.name = w ∧
        ∀ g ∈ front ++ back, normalized g.name ≠ w := by
  rw [List.find?_eq_some_iff_append]
  simp only [decide_eq_true_eq, Bool.not_eq_true', decide_eq_false_iff_not]
  constructor
  · rintro ⟨rfl, front, back, rfl, hfront⟩
    obtain ⟨-, hrest, -⟩ := resolvable_append_iff.1 hbefore
    have hback := hrest.nodup
    rw [List.map_cons, List.nodup_cons] at hback
    refine ⟨front, back, rfl, rfl, List.forall_mem_append.2 ⟨hfront, fun g hg he => ?_⟩⟩
    exact hback.1 (he ▸ List.mem_map_of_mem hg)
  · rintro ⟨front, back, rfl, hfirst, honly⟩
    exact ⟨hfirst, front, back, rfl, (List.forall_mem_append.1 honly).1⟩

end OneField

/-! ## Steps -/

namespace FieldModel

variable {before : List FieldDef} {f : FieldDef} {g : FieldModel} {e : EmitError}

theorem find?_map_resolved (before : List FieldDef) (w : String) :
    (before.map FieldDef.resolved).find? (fun g => g.wireName = w) =
      (before.find? fun g => normalized g.name = w).map FieldDef.resolved := by
  rw [List.find?_map]
  rfl

/-- All that resolving one field can come to. -/
theorem resolve_cases (hbefore : Resolvable before) (f : FieldDef) :
    (Resolvable (before ++ [f]) ∧
        resolve (before.map FieldDef.resolved) f = .ok f.resolved) ∨
      ∃ e, Refuses before f e ∧ resolve (before.map FieldDef.resolved) f = .error e := by
  unfold resolve
  cases hname : Identifier.normalize f.name with
  | error i =>
    obtain ⟨fault, hfault, rfl⟩ := normalize_eq_error_iff.1 hname
    exact .inr ⟨_, .invalid hfault, rfl⟩
  | ok w =>
    obtain ⟨hid, rfl⟩ := normalize_eq_ok_iff_isIdentifier.1 hname
    by_cases hkey : normalized f.name = commandNameKey
    · exact .inr ⟨_, .reserved hid hkey, by simp only [if_pos hkey]⟩
    · simp only [if_neg hkey, find?_map_resolved]
      cases hfind : before.find? fun g => normalized g.name = normalized f.name with
      | none =>
        have hne : ∀ g ∈ before, normalized g.name ≠ normalized f.name := by
          simpa using List.find?_eq_none.1 hfind
        exact .inl ⟨resolvable_snoc_iff.2 ⟨hbefore, hid, hkey, hne⟩, rfl⟩
      | some first =>
        obtain ⟨front, back, hsplit, hfirst, honly⟩ := (find?_eq_some_iff_only hbefore).1 hfind
        exact .inr ⟨_, .repeated hid hkey hsplit hfirst honly, rfl⟩

theorem resolve_eq_ok_iff (hbefore : Resolvable before) :
    resolve (before.map FieldDef.resolved) f = .ok g ↔
      Resolvable (before ++ [f]) ∧ g = f.resolved := by
  rcases resolve_cases hbefore f with ⟨hfits, hok⟩ | ⟨e, he, herror⟩
  · rw [hok, Except.ok.injEq, eq_comm, and_iff_right hfits]
  · rw [herror]
    exact ⟨fun h => (by cases h), fun h => absurd h.1 he.not_resolvable⟩

/-- What a refusal says of the field and those before it decides the step. -/
theorem resolve_eq_error_of_refuses (hbefore : Resolvable before) (h : Refuses before f e) :
    resolve (before.map FieldDef.resolved) f = .error e := by
  unfold resolve
  cases h with
  | invalid hfault => simp only [normalize_eq_error_iff.2 ⟨_, hfault, rfl⟩]
  | reserved hid hkey => simp only [normalize_eq_ok_iff_isIdentifier.2 ⟨hid, rfl⟩, if_pos hkey]
  | repeated hid hkey hsplit hfirst honly =>
    have hfind := (find?_eq_some_iff_only hbefore).2 ⟨_, _, hsplit, hfirst, honly⟩
    simp only [normalize_eq_ok_iff_isIdentifier.2 ⟨hid, rfl⟩, if_neg hkey, find?_map_resolved,
      hfind]
    rfl

theorem resolve_eq_error_iff (hbefore : Resolvable before) :
    resolve (before.map FieldDef.resolved) f = .error e ↔ Refuses before f e := by
  refine ⟨fun h => ?_, resolve_eq_error_of_refuses hbefore⟩
  rcases resolve_cases hbefore f with ⟨-, hok⟩ | ⟨e', he', herror⟩
  · cases hok.symm.trans h
  · obtain rfl := Except.error.inj (herror.symm.trans h)
    exact he'

/-! ## Runs -/

variable {front rest : List FieldDef} {fields : List FieldModel}

theorem resolveAll_eq_ok_iff (hfront : Resolvable front) :
    resolveAll (front.map FieldDef.resolved) rest = .ok fields ↔
      Resolvable (front ++ rest) ∧ fields = (front ++ rest).map FieldDef.resolved := by
  induction rest generalizing front with
  | nil => rw [resolveAll, Except.ok.injEq, List.append_nil, eq_comm, and_iff_right hfront]
  | cons f rest ih =>
    rw [resolveAll]
    cases hf : resolve (front.map FieldDef.resolved) f with
    | error e =>
      have hnot := ((resolve_eq_error_iff hfront).1 hf).not_resolvable
      refine ⟨fun h => (by cases h), fun h => absurd ?_ hnot⟩
      have hall : Resolvable (front ++ [f] ++ rest) := by simpa using h.1
      exact (resolvable_append_iff.1 hall).1
    | ok g =>
      obtain ⟨hfits, rfl⟩ := (resolve_eq_ok_iff hfront).1 hf
      have hnext := ih hfits
      rwa [List.map_append, List.append_assoc] at hnext

theorem resolveAll_eq_error_iff (hfront : Resolvable front) :
    resolveAll (front.map FieldDef.resolved) rest = .error e ↔ RefusesFirst front rest e := by
  induction rest generalizing front with
  | nil =>
    refine ⟨fun h => (by cases h), ?_⟩
    rintro ⟨middle, f, back, hsplit, -⟩
    simp at hsplit
  | cons f rest ih =>
    rw [resolveAll]
    cases hf : resolve (front.map FieldDef.resolved) f with
    | error e' =>
      have he' := (resolve_eq_error_iff hfront).1 hf
      constructor
      · intro h
        obtain rfl := Except.error.inj h
        exact ⟨[], f, rest, rfl, by simpa using hfront, by simpa using he'⟩
      · rintro ⟨middle, g, back, hsplit, hfits, hrefuses⟩
        cases middle with
        | nil =>
          obtain ⟨rfl, -⟩ := List.cons.inj hsplit
          rw [List.append_nil] at hrefuses
          exact congrArg Except.error
            (Except.error.inj (hf.symm.trans (resolve_eq_error_of_refuses hfront hrefuses)))
        | cons f' middle =>
          -- The field that is refused would have to fit.
          obtain ⟨rfl, -⟩ := List.cons.inj hsplit
          have hall : Resolvable (front ++ [f] ++ middle) := by simpa using hfits
          exact absurd (resolvable_append_iff.1 hall).1 he'.not_resolvable
    | ok g =>
      obtain ⟨hfits, rfl⟩ := (resolve_eq_ok_iff hfront).1 hf
      have hnext := ih hfits
      rw [List.map_append] at hnext
      refine hnext.trans ⟨?_, ?_⟩
      · rintro ⟨middle, g, back, rfl, hrest⟩
        exact ⟨f :: middle, g, back, rfl, by simpa using hrest⟩
      · rintro ⟨middle, g, back, hsplit, hmiddle, hrefuses⟩
        cases middle with
        | nil =>
          obtain ⟨rfl, -⟩ := List.cons.inj hsplit
          rw [List.append_nil] at hrefuses
          exact absurd hfits hrefuses.not_resolvable
        | cons f' middle =>
          obtain ⟨rfl, rfl⟩ := List.cons.inj hsplit
          exact ⟨middle, g, back, rfl, by simpa using hmiddle, by simpa using hrefuses⟩

end FieldModel

/-! ## Definitions -/

namespace CommandModel

variable {d : CommandDef} {m : CommandModel} {e : EmitError}

theorem resolve_eq_ok_iff : resolve d = .ok m ↔ (IsIdentifier d.name ∧ Resolvable d.fields) ∧
    m = ⟨d.name, normalized d.name, d.docs, d.fields.map FieldDef.resolved⟩ := by
  have hfields := fun fs => @FieldModel.resolveAll_eq_ok_iff [] d.fields fs .nil
  simp only [List.map_nil, List.nil_append] at hfields
  unfold resolve
  cases hname : Identifier.normalize d.name with
  | error i =>
    obtain ⟨fault, hfault, -⟩ := normalize_eq_error_iff.1 hname
    exact ⟨fun h => (by cases h), fun h => absurd h.1.1 hfault.not_isIdentifier⟩
  | ok w =>
    obtain ⟨hid, rfl⟩ := normalize_eq_ok_iff_isIdentifier.1 hname
    cases hall : FieldModel.resolveAll [] d.fields with
    | error e =>
      refine ⟨fun h => (by cases h), fun h => ?_⟩
      cases hall.symm.trans ((hfields _).2 ⟨h.1.2, rfl⟩)
    | ok fs =>
      obtain ⟨hfits, rfl⟩ := (hfields fs).1 hall
      rw [Except.ok.injEq, eq_comm, and_iff_right ⟨hid, hfits⟩]

theorem resolve_eq_error_iff : resolve d = .error e ↔
    (∃ fault, HasFault d.name fault ∧ e = .invalidIdentifier ⟨d.name, fault⟩) ∨
      IsIdentifier d.name ∧ RefusesFirst [] d.fields e := by
  have hfields := @FieldModel.resolveAll_eq_error_iff e [] d.fields .nil
  rw [List.map_nil] at hfields
  unfold resolve
  cases hname : Identifier.normalize d.name with
  | error i =>
    obtain ⟨fault, hfault, rfl⟩ := normalize_eq_error_iff.1 hname
    constructor
    · intro h
      exact .inl ⟨fault, hfault, (Except.error.inj h).symm⟩
    · rintro (⟨fault', hfault', rfl⟩ | ⟨hid, -⟩)
      · rw [hfault.unique hfault']
      · exact absurd hid hfault.not_isIdentifier
  | ok w =>
    obtain ⟨hid, rfl⟩ := normalize_eq_ok_iff_isIdentifier.1 hname
    have hnot : ¬ ∃ fault, HasFault d.name fault ∧ e = .invalidIdentifier ⟨d.name, fault⟩ := by
      rintro ⟨fault, hfault, -⟩
      exact hfault.not_isIdentifier hid
    rw [or_iff_right hnot, and_iff_right hid, ← hfields]
    cases FieldModel.resolveAll [] d.fields with
    | error e' => rw [Except.error.injEq, Except.error.injEq]
    | ok fs => exact ⟨fun h => (by cases h), fun h => (by cases h)⟩

/-- **Resolution is exact.** A definition resolves exactly when its name is an identifier and its
fields are resolvable, and then to its own parts with the names normalized. Otherwise the complaint
is about the name of the command if that is no identifier, and else about the first field that does
not fit. -/
theorem resolve_exact (d : CommandDef) :
    ((∃ m, resolve d = .ok m) ↔ IsIdentifier d.name ∧ Resolvable d.fields) ∧
      (∀ m, resolve d = .ok m ↔ (IsIdentifier d.name ∧ Resolvable d.fields) ∧
        m = ⟨d.name, normalized d.name, d.docs, d.fields.map FieldDef.resolved⟩) ∧
      ∀ e, resolve d = .error e ↔
        (∃ fault, HasFault d.name fault ∧ e = .invalidIdentifier ⟨d.name, fault⟩) ∨
          IsIdentifier d.name ∧ RefusesFirst [] d.fields e := by
  refine ⟨?_, fun m => resolve_eq_ok_iff, fun e => resolve_eq_error_iff⟩
  simp only [resolve_eq_ok_iff, exists_and_left, exists_eq, and_true]

/-- Two names become one when they are normalized. The last field is not reached, so that its name
is no identifier is not complained about. -/
example :
    resolve ⟨"Login", none, [⟨"id", .integer, none⟩, ⟨"userId", .string, none⟩,
        ⟨"UserID", .string, none⟩, ⟨"a-b", .string, none⟩]⟩ =
      .error (.duplicateMember "userId" "UserID" "user_id") := by
  decide +kernel

end CommandModel

end CommandForge
