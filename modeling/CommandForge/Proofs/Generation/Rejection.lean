import Mathlib.Data.List.Forall2
import CommandForge.Proofs.Generation.Overwrite
/-!
# What is refused

A produced artifact becomes a failure for one of two reasons: its normalized name is taken by
another command, or, when it is not, its path is taken by a support file or another command. With
neither it stays as it is (`Settles`). Both reasons are mutual between commands, so of artifacts
that conflict none is left in the report (`run_rejects`).
-/

namespace CommandForge

theorem mem_of_least?_eq_some {names : List String} {s : String} (h : least? names = some s) :
    s ∈ names := by
  induction names generalizing s with
  | nil => simp [least?] at h
  | cons t rest ih =>
    simp only [least?] at h
    split at h
    · obtain rfl := Option.some.inj h
      exact List.mem_cons_self
    · rename_i u hu
      have hmem := ih hu
      obtain rfl := Option.some.inj h
      split
      · exact List.mem_cons_of_mem t hmem
      · exact List.mem_cons_self

namespace Collision

variable {produced : List Artifact} {supportFiles : List SupportArtifact} {a b : Artifact}

/-! ## Conflicts -/

/-- Two artifacts of different commands have one normalized name. -/
def SharesName (a b : Artifact) : Prop := b.command ≠ a.command ∧ b.commandName = a.commandName

/-- Two artifacts of different commands are written to one path. -/
def SharesPath (a b : Artifact) : Prop := b.command ≠ a.command ∧ place b = place a

/-- `other` is another command that was produced, in some language, under the normalized name of
`a`. -/
def TakesName (produced : List Artifact) (a : Artifact) (other : String) : Prop :=
  ∃ b ∈ produced, b.command = other ∧ SharesName a b

/-- `other` labels a support file or another command that is written to the path of `a`. -/
def TakesPath (produced : List Artifact) (supportFiles : List SupportArtifact) (a : Artifact)
    (other : String) : Prop :=
  (∃ s ∈ supportFiles, "support file " ++ s.file.fileName = other ∧
    Path.components s.path = place a) ∨ ∃ b ∈ produced, b.command = other ∧ SharesPath a b

theorem contested_of_sharesName (hb : b ∈ produced) (h : SharesName a b) :
    Contested produced supportFiles a :=
  .inl ⟨b, hb, h.1, .inl h.2⟩

theorem contested_of_sharesPath (hb : b ∈ produced) (h : SharesPath a b) :
    Contested produced supportFiles a :=
  .inl ⟨b, hb, h.1, .inr h.2⟩

theorem SharesName.symm (h : SharesName a b) : SharesName b a := ⟨h.1.symm, h.2.symm⟩

theorem SharesPath.symm (h : SharesPath a b) : SharesPath b a := ⟨h.1.symm, h.2.symm⟩

/-! ## The reason that is found -/

/-- Who writes to which path. -/
def writers (produced : List Artifact) (supportFiles : List SupportArtifact) : List Writer :=
  supportFiles.map (·.writer) ++ produced.map (·.writer)

theorem exists_of_mem_writers {w : Writer} (h : w ∈ writers produced supportFiles) :
    (∃ s ∈ supportFiles, s.writer = w) ∨ ∃ b ∈ produced, b.writer = w := by
  rcases List.mem_append.1 h with hw | hw
  · exact .inl (List.mem_map.1 hw)
  · exact .inr (List.mem_map.1 hw)

theorem exists_takesName_iff : (∃ other, TakesName produced a other) ↔ sharing produced a ≠ [] := by
  rw [Ne, sharing_eq_nil_iff]
  constructor
  · rintro ⟨_, b, hb, -, hne, hname⟩ hall
    exact hne (hall b hb hname)
  · intro hall
    by_contra hnot
    refine hall fun b hb hname => ?_
    by_contra hne
    exact hnot ⟨b.command, b, hb, rfl, hne, hname⟩

theorem takesName_of_mem_sharing {other : String} (h : other ∈ sharing produced a) :
    TakesName produced a other := by
  obtain ⟨b, hb, rfl⟩ := List.mem_map.1 h
  obtain ⟨hb, hshares⟩ := List.mem_filter.1 hb
  simp only [Bool.and_eq_true, decide_eq_true_eq, bne_iff_ne] at hshares
  exact ⟨b, hb, rfl, hshares.2, hshares.1⟩

theorem takesPath_of_mem_writers {w : Writer} (hw : w ∈ writers produced supportFiles)
    (hpath : w.path = place a) (hlabel : w.label ≠ a.command) :
    TakesPath produced supportFiles a w.label := by
  rcases exists_of_mem_writers hw with ⟨s, hs, rfl⟩ | ⟨b, hb, rfl⟩
  · exact .inl ⟨s, hs, rfl, hpath⟩
  · exact .inr ⟨b, hb, rfl, hlabel, hpath⟩

/-- The label of a writer of the path tells it from the command, because no command is named like a
support file. -/
theorem not_takesPath (ha : Identifier.normalize a.command = .ok a.commandName)
    (hall : ∀ w ∈ writers produced supportFiles, w.path = place a → w.label = a.command)
    (other : String) : ¬ TakesPath produced supportFiles a other := by
  rintro (⟨s, hs, -, hpath⟩ | ⟨b, hb, -, hne, hpath⟩)
  · have hw : s.writer ∈ writers produced supportFiles :=
      List.mem_append_left _ (List.mem_map.2 ⟨s, hs, rfl⟩)
    exact s.label_ne ha (hall s.writer hw hpath)
  · have hw : b.writer ∈ writers produced supportFiles :=
      List.mem_append_right _ (List.mem_map.2 ⟨b, hb, rfl⟩)
    exact hne (hall b.writer hw hpath)

/-- All that looking for a reason can come to. -/
theorem find?_cases (produced : List Artifact) (supportFiles : List SupportArtifact)
    (ha : Identifier.normalize a.command = .ok a.commandName) :
    (∃ other, TakesName produced a other ∧ find? produced (writers produced supportFiles) a =
        some (.duplicateCommandName a.commandName other)) ∨
      (¬ ∃ other, TakesName produced a other) ∧
        ((∃ other, TakesPath produced supportFiles a other ∧
            find? produced (writers produced supportFiles) a =
              some (.outputCollision a.path other)) ∨
          (¬ ∃ other, TakesPath produced supportFiles a other) ∧
            find? produced (writers produced supportFiles) a = none) := by
  cases hleast : least? (sharing produced a) with
  | some other =>
    have htakes := takesName_of_mem_sharing (mem_of_least?_eq_some hleast)
    exact .inl ⟨other, htakes, by rw [find?, hleast]⟩
  | none =>
    have hname : ¬ ∃ other, TakesName produced a other := by
      rw [exists_takesName_iff, not_not]
      exact least?_eq_none_iff.1 hleast
    have hfind : find? produced (writers produced supportFiles) a =
        (otherWriter? (writers produced supportFiles) a).map
          fun w => .outputCollision a.path w.label := by
      rw [find?, hleast]
    refine .inr ⟨hname, ?_⟩
    cases hother : otherWriter? (writers produced supportFiles) a with
    | some w =>
      rw [hother] at hfind
      have hmem := List.mem_of_find?_eq_some hother
      have hw := List.find?_some hother
      simp only [Bool.and_eq_true, decide_eq_true_eq, bne_iff_ne] at hw
      exact .inl ⟨w.label, takesPath_of_mem_writers hmem hw.1 hw.2, hfind⟩
    | none =>
      rw [hother] at hfind
      have hall := otherWriter?_eq_none_iff.1 hother
      exact .inr ⟨not_exists.2 (not_takesPath ha hall), hfind⟩

/-! ## What becomes of an artifact -/

/-- What the produced artifact `a` becomes: a failure exactly when its name or else its path is
taken, naming who takes it, and otherwise itself. -/
structure Settles (produced : List Artifact) (supportFiles : List SupportArtifact) (a : Artifact)
    (o : Outcome) : Prop where
  duplicate_iff : (∃ other, o = .error ⟨a.command, a.language,
    .duplicateCommandName a.commandName other⟩) ↔ ∃ other, TakesName produced a other
  collision_iff : (∃ other, o = .error ⟨a.command, a.language, .outputCollision a.path other⟩) ↔
    (¬ ∃ other, TakesName produced a other) ∧ ∃ other, TakesPath produced supportFiles a other
  stays : (¬ ∃ other, TakesName produced a other) →
    (¬ ∃ other, TakesPath produced supportFiles a other) → o = .ok a
  takesName : ∀ other, o = .error ⟨a.command, a.language,
    .duplicateCommandName a.commandName other⟩ → TakesName produced a other
  takesPath : ∀ other, o = .error ⟨a.command, a.language, .outputCollision a.path other⟩ →
    TakesPath produced supportFiles a other

theorem settles_duplicate {other : String} (h : TakesName produced a other) :
    Settles produced supportFiles a
      (.error ⟨a.command, a.language, .duplicateCommandName a.commandName other⟩) where
  duplicate_iff := ⟨fun _ => ⟨other, h⟩, fun _ => ⟨other, rfl⟩⟩
  collision_iff := ⟨fun ⟨_, ho⟩ => by simp at ho, fun ⟨hnot, _⟩ => absurd ⟨other, h⟩ hnot⟩
  stays hnot _ := absurd ⟨other, h⟩ hnot
  takesName _ ho := by
    simp only [Except.error.injEq, PairFailure.mk.injEq, EmitError.duplicateCommandName.injEq,
      true_and] at ho
    exact ho ▸ h
  takesPath _ ho := by simp at ho

theorem settles_collision {other : String} (hname : ¬ ∃ other, TakesName produced a other)
    (h : TakesPath produced supportFiles a other) : Settles produced supportFiles a
      (.error ⟨a.command, a.language, .outputCollision a.path other⟩) where
  duplicate_iff := ⟨fun ⟨_, ho⟩ => by simp at ho, fun htaken => absurd htaken hname⟩
  collision_iff := ⟨fun _ => ⟨hname, other, h⟩, fun _ => ⟨other, rfl⟩⟩
  stays _ hnot := absurd ⟨other, h⟩ hnot
  takesName _ ho := by simp at ho
  takesPath _ ho := by
    simp only [Except.error.injEq, PairFailure.mk.injEq, EmitError.outputCollision.injEq,
      true_and] at ho
    exact ho ▸ h

theorem settles_ok (hname : ¬ ∃ other, TakesName produced a other)
    (hpath : ¬ ∃ other, TakesPath produced supportFiles a other) :
    Settles produced supportFiles a (.ok a) where
  duplicate_iff := ⟨fun ⟨_, ho⟩ => by simp at ho, fun htaken => absurd htaken hname⟩
  collision_iff := ⟨fun ⟨_, ho⟩ => by simp at ho, fun ⟨_, htaken⟩ => absurd htaken hpath⟩
  stays _ _ := rfl
  takesName _ ho := by simp at ho
  takesPath _ ho := by simp at ho

/-- What the outcome of a pair becomes: a failure stays, an artifact settles. -/
def Becomes (produced : List Artifact) (supportFiles : List SupportArtifact) :
    Outcome → Outcome → Prop
  | .error f, o => o = .error f
  | .ok a, o => Settles produced supportFiles a o

theorem forall₂_becomes_reject {outcomes : List Outcome}
    (h : ∀ a ∈ Report.produced outcomes, Identifier.normalize a.command = .ok a.commandName) :
    List.Forall₂ (Becomes (Report.produced outcomes) supportFiles) outcomes
      (reject outcomes supportFiles) := by
  rw [reject, List.forall₂_map_right_iff, List.forall₂_same]
  intro o ho
  cases o with
  | error f => exact Eq.refl (Except.error f)
  | ok a =>
    have ha := h a (Report.mem_produced.2 ho)
    rcases find?_cases (Report.produced outcomes) supportFiles ha with
      ⟨other, htakes, hfind⟩ | ⟨hname, ⟨other, htakes, hfind⟩ | ⟨hpath, hfind⟩⟩
    all_goals
      rw [writers] at hfind
      simp only [hfind, Becomes]
    · exact settles_duplicate htakes
    · exact settles_collision hname htakes
    · exact settles_ok hname hpath

end Collision

/-! ## The report -/

namespace Generator

open Collision (SharesName SharesPath Contested Becomes)

variable {g : Generator} {commands : List CommandDef} {a b : Artifact}

theorem mem_artifacts_run_iff : a ∈ (g.run commands).artifacts ↔
    a ∈ Report.produced (g.outcomes commands) ∧
      ¬ Contested (Report.produced (g.outcomes commands)) g.supportFiles a := by
  rw [(perm_artifacts_run g commands).mem_iff, List.mem_filter]
  constructor
  · exact fun ⟨ha, hs⟩ => ⟨ha, (stays_iff ha).1 hs⟩
  · exact fun ⟨ha, hs⟩ => ⟨ha, (stays_iff ha).2 hs⟩

/-- Of two produced artifacts that conflict neither is in the report. -/
theorem notMem_artifacts_of_conflict (ha : a ∈ Report.produced (g.outcomes commands))
    (h : SharesName a b ∨ SharesPath a b) : b ∉ (g.run commands).artifacts := by
  rw [mem_artifacts_run_iff]
  rintro ⟨-, hnot⟩
  rcases h with h | h
  · exact hnot (Collision.contested_of_sharesName ha h.symm)
  · exact hnot (Collision.contested_of_sharesPath ha h.symm)

theorem command_eq_of_commandName_eq (ha : a ∈ (g.run commands).artifacts)
    (hb : b ∈ (g.run commands).artifacts) (h : a.commandName = b.commandName) :
    a.command = b.command := by
  by_contra hne
  have hproduced := (mem_artifacts_run_iff.1 hb).1
  exact notMem_artifacts_of_conflict hproduced (.inl ⟨hne, h⟩) ha

/-- **Collision rejection is exact and has no winner.** The report is made of what each outcome
becomes: an artifact fails exactly when another command has its normalized name or, if none has,
when a support file or another command has its path, and the failure names one that does; any other
artifact is left as it is. Of artifacts that conflict none is left, so those that are left under
one normalized name come from one command. -/
theorem run_rejects (g : Generator) (commands : List CommandDef) :
    let outcomes := g.outcomes commands
    let produced := Report.produced outcomes
    let r := g.run commands
    ∃ settled : List Outcome, r = .ofOutcomes settled r.supportFiles ∧
      List.Forall₂ (Becomes produced r.supportFiles) outcomes settled ∧
      (∀ a ∈ produced, ∀ b ∈ produced, SharesName a b ∨ SharesPath a b →
        a ∉ r.artifacts ∧ b ∉ r.artifacts) ∧
      ∀ a ∈ r.artifacts, ∀ b ∈ r.artifacts, a.commandName = b.commandName →
        a.command = b.command := by
  intro outcomes produced r
  refine ⟨Collision.reject outcomes g.supportFiles, rfl, ?_, ?_, ?_⟩
  · exact Collision.forall₂_becomes_reject fun a ha => normalize_command ha
  · intro a ha b hb h
    have hsymm : SharesName b a ∨ SharesPath b a := h.imp SharesName.symm SharesPath.symm
    exact ⟨notMem_artifacts_of_conflict hb hsymm, notMem_artifacts_of_conflict ha h⟩
  · exact fun a ha b hb h => command_eq_of_commandName_eq ha hb h

end Generator

end CommandForge
