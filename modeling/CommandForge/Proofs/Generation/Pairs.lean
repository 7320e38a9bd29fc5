import Mathlib.Data.List.ProdSigma
import CommandForge.Generation.Generator
import CommandForge.Proofs.Command.Resolved
import CommandForge.Proofs.Text.Utf8Order
/-!
# The pairs of a report

A run reports every pair of a command and a language exactly once, as an artifact or as a failure,
each kind in byte order of the pairs (`run_accounts`). Every stage keeps the list of pairs: an
outcome is about the pair it was made for, a collision turns an outcome into one about the same
pair, and splitting and sorting the outcomes only reorders them.
-/

namespace CommandForge

/-! ## The order of pairs -/

/-- The order of reports: by the bytes of the command and then by those of the language. -/
def PairPrecedes (p q : String × String) : Prop :=
  Text.utf8 p.1 < Text.utf8 q.1 ∨ p.1 = q.1 ∧ Text.utf8 p.2 ≤ Text.utf8 q.2

theorem pairLE_iff {p q : String × String} :
    pairLE p q = true ↔ p.1 < q.1 ∨ p.1 = q.1 ∧ p.2 ≤ q.2 := by
  simp only [pairLE, Bool.or_eq_true, Bool.and_eq_true, Bool.not_eq_true', decide_eq_true_eq,
    decide_eq_false_iff_not, beq_iff_eq, String.not_lt]

theorem pairLE_iff_pairPrecedes {p q : String × String} :
    pairLE p q = true ↔ PairPrecedes p q := by
  rw [pairLE_iff, PairPrecedes, Text.utf8_lt_iff, ← String.not_lt, ← List.not_lt, Text.utf8_lt_iff]

theorem pairLE_trans {p q r : String × String} (hpq : pairLE p q = true)
    (hqr : pairLE q r = true) : pairLE p r = true := by
  rw [pairLE_iff] at *
  rcases hpq with hpq | ⟨hpq, hl⟩
  · rcases hqr with hqr | ⟨hqr, -⟩
    · exact .inl (String.lt_trans hpq hqr)
    · exact .inl (hqr ▸ hpq)
  · rw [hpq]
    exact hqr.imp_right fun ⟨hqr, hl'⟩ => ⟨hqr, String.le_trans hl hl'⟩

theorem pairLE_total (p q : String × String) : (pairLE p q || pairLE q p) = true := by
  rw [Bool.or_eq_true, pairLE_iff, pairLE_iff]
  rcases Std.lt_trichotomy p.1 q.1 with h | h | h
  · exact .inl (.inl h)
  · exact (String.le_total p.2 q.2).imp (fun hl => .inr ⟨h, hl⟩) fun hl => .inr ⟨h.symm, hl⟩
  · exact .inr (.inl h)

/-- What is sorted by its pairs is in the order of reports. -/
theorem pairwise_mergeSort_pair {α : Type} (pair : α → String × String) (xs : List α) :
    (xs.mergeSort fun a b => pairLE (pair a) (pair b)).Pairwise
      fun a b => PairPrecedes (pair a) (pair b) := by
  have h := @List.pairwise_mergeSort _ (fun a b => pairLE (pair a) (pair b))
    (fun _ _ _ => pairLE_trans) (fun _ _ => pairLE_total _ _) xs
  exact h.imp pairLE_iff_pairPrecedes.1

/-! ## Every stage keeps the pairs -/

theorem Generator.pair_outcome (d : CommandDef) (language : String) (e : Emitter) :
    (outcome d language e).pair = (d.name, language) := by
  unfold outcome
  split
  · rfl
  · rename_i m hm
    split
    · rfl
    · exact congrArg (·, language) (CommandModel.resolved_of_resolve hm).typeName_eq

theorem Generator.map_pair_outcomes (g : Generator) (commands : List CommandDef) :
    (g.outcomes commands).map Outcome.pair = commands.map (·.name) ×ˢ g.languages := by
  simp [outcomes, languages, SProd.sprod, List.product, List.map_flatMap, List.flatMap_map,
    pair_outcome, Function.comp_def]

theorem Collision.map_pair_reject (outcomes : List Outcome) (supportFiles : List SupportArtifact) :
    (reject outcomes supportFiles).map Outcome.pair = outcomes.map Outcome.pair := by
  simp only [reject, List.map_map]
  refine List.map_congr_left fun o _ => ?_
  cases o with
  | error f => rfl
  | ok a =>
    simp only [Function.comp_apply]
    split <;> rfl

namespace Report

/-- Splitting outcomes by kind reorders their pairs. -/
theorem perm_pairs (outcomes : List Outcome) :
    ((produced outcomes).map Artifact.pair ++ (failed outcomes).map PairFailure.pair).Perm
      (outcomes.map Outcome.pair) := by
  induction outcomes with
  | nil => exact .nil
  | cons o outcomes ih =>
    cases o with
    | ok a => exact ih.cons a.pair
    | error f => exact List.perm_middle.trans (ih.cons f.pair)

theorem perm_pairs_ofOutcomes (outcomes : List Outcome) (supportFiles : List SupportArtifact) :
    let r := ofOutcomes outcomes supportFiles
    (r.artifacts.map Artifact.pair ++ r.failures.map PairFailure.pair).Perm
      (outcomes.map Outcome.pair) :=
  (((List.mergeSort_perm _ _).map _).append ((List.mergeSort_perm _ _).map _)).trans
    (perm_pairs outcomes)

end Report

/-! ## The report of a run -/

namespace Generator

variable (g : Generator) (commands : List CommandDef)

theorem perm_pairs_run :
    ((g.run commands).artifacts.map Artifact.pair ++
      (g.run commands).failures.map PairFailure.pair).Perm
        (commands.map (·.name) ×ˢ g.languages) := by
  have h := Report.perm_pairs_ofOutcomes
    (Collision.reject (g.outcomes commands) g.supportFiles) g.supportFiles
  rwa [Collision.map_pair_reject, map_pair_outcomes] at h

theorem length_artifacts_add_length_failures :
    (g.run commands).artifacts.length + (g.run commands).failures.length =
      commands.length * g.languages.length := by
  have h := (perm_pairs_run g commands).length_eq
  rw [List.length_append, List.length_map, List.length_map, List.length_product] at h
  rwa [List.length_map] at h

/-- **Every pair is reported exactly once.** The pairs of the artifacts and of the failures
together are those of a command's name and a language, each as often as it is asked for; both lists
are in the order of reports; and a run succeeds exactly when there is an artifact for each. -/
theorem run_accounts (g : Generator) (commands : List CommandDef) :
    let r := g.run commands
    (r.artifacts.map Artifact.pair ++ r.failures.map PairFailure.pair).Perm
        (commands.map (·.name) ×ˢ g.languages) ∧
      r.artifacts.Pairwise (fun a b => PairPrecedes a.pair b.pair) ∧
      r.failures.Pairwise (fun e f => PairPrecedes e.pair f.pair) ∧
      (r.isSuccess = true ↔ r.artifacts.length = commands.length * g.languages.length) := by
  have hlen := length_artifacts_add_length_failures g commands
  refine ⟨perm_pairs_run g commands, pairwise_mergeSort_pair _ _, pairwise_mergeSort_pair _ _, ?_⟩
  rw [Report.isSuccess, List.isEmpty_iff, ← List.length_eq_zero_iff]
  omega

end Generator

end CommandForge
