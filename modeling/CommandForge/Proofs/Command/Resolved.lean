import CommandForge.Command.Model
import CommandForge.Proofs.Identifier.Normalized
/-!
# Resolved models

What resolution guarantees of the models it produces (`CommandModel.Resolved`): every name is the
normalized form of a valid identifier, no field travels under the key of the command name, and no
two fields travel under one name. Resolution goes over the fields with the resolved ones at hand,
so the guarantee is an invariant of that prefix: one field keeps it (`WellNamed.snoc`), hence all
fields do (`wellNamed_of_resolveAll`).
-/

namespace CommandForge

open Identifier (normalize)

namespace FieldModel

/-- The names of resolved fields: normalized, not reserved, and different from one another. -/
structure WellNamed (fields : List FieldModel) : Prop where
  normalized : ∀ f ∈ fields, normalize f.sourceName = .ok f.wireName
  ne_commandNameKey : ∀ f ∈ fields, f.wireName ≠ commandNameKey
  nodup : (fields.map (·.wireName)).Nodup

theorem WellNamed.nil : WellNamed [] := ⟨by simp, by simp, by simp⟩

/-- What resolving one field checks, and what it keeps. -/
theorem resolve_eq_ok {before : List FieldModel} {d : FieldDef} {f : FieldModel}
    (h : resolve before d = .ok f) :
    normalize d.name = .ok f.wireName ∧ f.wireName ≠ commandNameKey ∧
      (∀ g ∈ before, g.wireName ≠ f.wireName) ∧
      f.sourceName = d.name ∧ f.type = d.type ∧ f.docs = d.docs := by
  unfold resolve at h
  split at h
  · simp at h
  · rename_i w hw
    split at h
    · simp at h
    · rename_i hk
      split at h
      · simp at h
      · rename_i hf
        have hne : ∀ g ∈ before, g.wireName ≠ w := by simpa using List.find?_eq_none.1 hf
        simp only [Except.ok.injEq] at h
        subst h
        exact ⟨hw, hk, hne, rfl, rfl, rfl⟩

/-- One more resolved field keeps the invariant. -/
theorem WellNamed.snoc {before : List FieldModel} (hb : WellNamed before) {d : FieldDef}
    {f : FieldModel} (h : resolve before d = .ok f) : WellNamed (before ++ [f]) := by
  obtain ⟨hn, hk, hne, hs, -, -⟩ := resolve_eq_ok h
  refine ⟨?_, ?_, ?_⟩
  · intro g hg
    rcases List.mem_append.1 hg with hg | hg
    · exact hb.normalized g hg
    · rw [List.mem_singleton.1 hg, hs, hn]
  · intro g hg
    rcases List.mem_append.1 hg with hg | hg
    · exact hb.ne_commandNameKey g hg
    · rwa [List.mem_singleton.1 hg]
  · rw [List.map_append, List.nodup_append]
    refine ⟨hb.nodup, by simp, ?_⟩
    intro w hw v hv
    obtain ⟨g, hg, rfl⟩ := List.mem_map.1 hw
    simp only [List.map_cons, List.map_nil, List.mem_singleton] at hv
    exact hv ▸ hne g hg

/-- All fields keep it. -/
theorem wellNamed_of_resolveAll {defs : List FieldDef} {before fields : List FieldModel}
    (hb : WellNamed before) (h : resolveAll before defs = .ok fields) : WellNamed fields := by
  induction defs generalizing before with
  | nil =>
    simp only [resolveAll, Except.ok.injEq] at h
    exact h ▸ hb
  | cons d defs ih =>
    simp only [resolveAll] at h
    split at h
    · simp at h
    · rename_i f hf
      exact ih (hb.snoc hf) h

/-- Resolution keeps the fields, their types and their documentation in order. -/
theorem declared_of_resolveAll {defs : List FieldDef} {before fields : List FieldModel}
    (h : resolveAll before defs = .ok fields) :
    fields.map (fun f => (f.sourceName, f.type, f.docs)) =
      before.map (fun f => (f.sourceName, f.type, f.docs)) ++
        defs.map fun d => (d.name, d.type, d.docs) := by
  induction defs generalizing before with
  | nil =>
    simp only [resolveAll, Except.ok.injEq] at h
    simp [h]
  | cons d defs ih =>
    simp only [resolveAll] at h
    split at h
    · simp at h
    · rename_i f hf
      obtain ⟨-, -, -, hs, ht, hd⟩ := resolve_eq_ok hf
      rw [ih h]
      simp [hs, ht, hd]

end FieldModel

namespace CommandModel

/-- What resolving the definition `d` guarantees of its model. -/
structure Resolved (d : CommandDef) (m : CommandModel) : Prop where
  typeName_eq : m.typeName = d.name
  docs_eq : m.docs = d.docs
  normalized : normalize m.typeName = .ok m.commandName
  fields : FieldModel.WellNamed m.fields
  declared : m.fields.map (fun f => (f.sourceName, f.type, f.docs)) =
    d.fields.map fun f => (f.name, f.type, f.docs)

theorem resolved_of_resolve {d : CommandDef} {m : CommandModel} (h : resolve d = .ok m) :
    Resolved d m := by
  unfold resolve at h
  split at h
  · simp at h
  · rename_i commandName hn
    split at h
    · simp at h
    · rename_i fields hf
      simp only [Except.ok.injEq] at h
      subst h
      exact ⟨rfl, rfl, hn, FieldModel.wellNamed_of_resolveAll .nil hf,
        by simpa using FieldModel.declared_of_resolveAll hf⟩

namespace Resolved

variable {d : CommandDef} {m : CommandModel}

theorem isAlphanum_typeName (h : Resolved d m) : ∀ c ∈ m.typeName.toList, c.isAlphanum = true :=
  Identifier.isAlphanum_of_fault?_eq_none (Identifier.normalize_eq_ok_iff.1 h.normalized).1

theorem isWireChar_commandName (h : Resolved d m) :
    ∀ c ∈ m.commandName.toList, Identifier.isWireChar c = true :=
  Identifier.isWireChar_of_normalize h.normalized

theorem isWireChar_wireName (h : Resolved d m) {f : FieldModel} (hf : f ∈ m.fields) :
    ∀ c ∈ f.wireName.toList, Identifier.isWireChar c = true :=
  Identifier.isWireChar_of_normalize (h.fields.normalized f hf)

theorem lowercase_wireName (h : Resolved d m) {f : FieldModel} (hf : f ∈ m.fields) :
    Text.lowercase f.wireName = f.wireName :=
  Text.lowercase_of_isWireChar (h.isWireChar_wireName hf)

end Resolved

end CommandModel

end CommandForge
