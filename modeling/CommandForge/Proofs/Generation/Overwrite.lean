import Mathlib.Data.List.Nodup
import CommandForge.Proofs.Generation.Pairs
/-!
# Outputs that share a path

An artifact of a run is refused exactly when it is contested: another command has its normalized
name or its path, or a support file has its path (`find?_eq_none_iff`). So no artifact of a report
takes the path of a support file, while two artifacts of one command may take one path, since they
do not contest each other: the paths of a report differ exactly when no such pair is produced
uncontested (`nodup_paths_iff`).
-/

namespace CommandForge

/-! ## Labels -/

theorem least?_eq_none_iff {names : List String} : least? names = none ↔ names = [] := by
  cases names with
  | nil => simp [least?]
  | cons s rest =>
    simp only [least?]
    split <;> simp

/-- No command is named like the label of a support file, which has a blank. -/
theorem SupportArtifact.label_ne {command commandName : String}
    (h : Identifier.normalize command = .ok commandName) (s : SupportArtifact) :
    s.writer.label ≠ command := by
  rintro rfl
  have halnum := Identifier.isAlphanum_of_fault?_eq_none (Identifier.normalize_eq_ok_iff.1 h).1
  have hblank : ' ' ∈ s.writer.label.toList := by simp [writer]
  exact absurd (halnum ' ' hblank) (by decide)

/-! ## Produced artifacts -/

theorem Report.mem_produced {outcomes : List Outcome} {a : Artifact} :
    a ∈ produced outcomes ↔ .ok a ∈ outcomes := by
  simp only [produced, List.mem_filterMap]
  constructor
  · rintro ⟨o, ho, he⟩
    cases o with
    | ok b => exact Option.some.inj he ▸ ho
    | error f => simp at he
  · exact fun h => ⟨.ok a, h, rfl⟩

theorem Report.map_pair_produced_sublist (outcomes : List Outcome) :
    ((produced outcomes).map Artifact.pair).Sublist (outcomes.map Outcome.pair) := by
  induction outcomes with
  | nil => exact .slnil
  | cons o outcomes ih =>
    cases o with
    | ok a => exact ih.cons_cons a.pair
    | error f => exact ih.cons f.pair

theorem Report.produced_cons_ok (a : Artifact) (outcomes : List Outcome) :
    produced (.ok a :: outcomes) = a :: produced outcomes := rfl

namespace Generator

variable {g : Generator} {commands : List CommandDef} {a : Artifact}

theorem outcome_eq_ok {d : CommandDef} {language : String} {e : Emitter}
    (h : outcome d language e = .ok a) :
    ∃ m content, CommandModel.resolve d = .ok m ∧ e.emit m = .ok content ∧
      a = ⟨language, m.typeName, m.commandName, e.fileName m, m.members, content⟩ := by
  unfold outcome at h
  split at h
  · contradiction
  · rename_i m hm
    split at h
    · contradiction
    · rename_i content hcontent
      exact ⟨m, content, hm, hcontent, (Except.ok.inj h).symm⟩

theorem command_eq_of_outcome {d : CommandDef} {language : String} {e : Emitter}
    (h : outcome d language e = .ok a) : a.command = d.name := by
  have hpair := pair_outcome d language e
  rw [h] at hpair
  exact congrArg Prod.fst hpair

theorem mem_produced_iff :
    a ∈ Report.produced (g.outcomes commands) ↔
      ∃ d ∈ commands, ∃ language e, (language, e) ∈ g.emitters ∧ outcome d language e = .ok a := by
  simp [Report.mem_produced, outcomes]

/-- The normalized name of an artifact is that of its command. -/
theorem normalize_command (h : a ∈ Report.produced (g.outcomes commands)) :
    Identifier.normalize a.command = .ok a.commandName := by
  obtain ⟨d, -, language, e, -, ho⟩ := mem_produced_iff.1 h
  obtain ⟨m, content, hm, -, rfl⟩ := outcome_eq_ok ho
  exact (CommandModel.resolved_of_resolve hm).normalized

end Generator

namespace Collision

variable {produced : List Artifact} {supportFiles : List SupportArtifact} {a b : Artifact}

/-- The path of an artifact, as paths are compared. -/
def place (a : Artifact) : List Path.Component := Path.components a.path

/-- Another command has the normalized name or the path of the artifact, or a support file has its
path. -/
def Contested (produced : List Artifact) (supportFiles : List SupportArtifact) (a : Artifact) :
    Prop :=
  (∃ b ∈ produced, b.command ≠ a.command ∧ (b.commandName = a.commandName ∨ place b = place a)) ∨
    ∃ s ∈ supportFiles, Path.components s.path = place a

theorem sharing_eq_nil_iff :
    sharing produced a = [] ↔
      ∀ b ∈ produced, b.commandName = a.commandName → b.command = a.command := by
  simp [sharing, List.filter_eq_nil_iff]

theorem otherWriter?_eq_none_iff {writers : List Writer} :
    otherWriter? writers a = none ↔ ∀ w ∈ writers, w.path = place a → w.label = a.command := by
  simp [otherWriter?, place]

/-- An artifact of a command with a valid name is refused exactly when it is contested. -/
theorem find?_eq_none_iff (ha : Identifier.normalize a.command = .ok a.commandName) :
    find? produced (supportFiles.map (·.writer) ++ produced.map (·.writer)) a = none ↔
      ¬ Contested produced supportFiles a := by
  have hfind : find? produced (supportFiles.map (·.writer) ++ produced.map (·.writer)) a = none ↔
      sharing produced a = [] ∧
        otherWriter? (supportFiles.map (·.writer) ++ produced.map (·.writer)) a = none := by
    rw [find?, ← least?_eq_none_iff]
    split <;> simp_all
  rw [hfind, sharing_eq_nil_iff, otherWriter?_eq_none_iff]
  constructor
  · rintro ⟨hname, hpath⟩ (⟨b, hb, hne, hb' | hb'⟩ | ⟨s, hs, hs'⟩)
    · exact hne (hname b hb hb')
    · refine hne (hpath b.writer ?_ hb')
      exact List.mem_append_right _ (List.mem_map.2 ⟨b, hb, rfl⟩)
    · refine s.label_ne ha (hpath s.writer ?_ hs')
      exact List.mem_append_left _ (List.mem_map.2 ⟨s, hs, rfl⟩)
  · intro hnot
    refine ⟨fun b hb hname => ?_, fun w hw hpath => ?_⟩
    · by_contra hne
      exact hnot (.inl ⟨b, hb, hne, .inl hname⟩)
    · rcases List.mem_append.1 hw with hw | hw
      · obtain ⟨s, hs, rfl⟩ := List.mem_map.1 hw
        exact absurd (.inr ⟨s, hs, hpath⟩) hnot
      · obtain ⟨b, hb, rfl⟩ := List.mem_map.1 hw
        by_contra hne
        exact hnot (.inl ⟨b, hb, hne, .inr hpath⟩)

theorem produced_map_refuse (refuse : Artifact → Option EmitError) (outcomes : List Outcome) :
    Report.produced (outcomes.map fun o => match o with
      | .error f => .error f
      | .ok a => match refuse a with
        | some error => .error ⟨a.command, a.language, error⟩
        | none => .ok a) = (Report.produced outcomes).filter fun a => (refuse a).isNone := by
  induction outcomes with
  | nil => rfl
  | cons o outcomes ih =>
    rw [List.map_cons]
    cases o with
    | error f => exact ih
    | ok a =>
      cases h : refuse a with
      | none =>
        simp only [h]
        rw [Report.produced_cons_ok, Report.produced_cons_ok, ih,
          List.filter_cons_of_pos (by simp [h])]
      | some error =>
        simp only [h]
        rw [Report.produced_cons_ok, List.filter_cons_of_neg (by simp [h]), ← ih]
        rfl

end Collision

namespace Generator

open Collision (Contested place)

variable (g : Generator) (commands : List CommandDef)

/-- Among the produced artifacts, those that stay in the report. -/
def stays (g : Generator) (commands : List CommandDef) (a : Artifact) : Bool :=
  let produced := Report.produced (g.outcomes commands)
  (Collision.find? produced (g.supportFiles.map (·.writer) ++ produced.map (·.writer)) a).isNone

theorem perm_artifacts_run : (g.run commands).artifacts.Perm
    ((Report.produced (g.outcomes commands)).filter (g.stays commands)) := by
  refine (List.mergeSort_perm _ _).trans (.of_eq ?_)
  exact Collision.produced_map_refuse _ _

variable {g commands}

theorem stays_iff {a : Artifact} (ha : a ∈ Report.produced (g.outcomes commands)) :
    g.stays commands a = true ↔
      ¬ Contested (Report.produced (g.outcomes commands)) g.supportFiles a := by
  rw [← Collision.find?_eq_none_iff (normalize_command ha), stays, Option.isNone_iff_eq_none]

/-- Two artifacts of one command that share a path are contested together; of two commands, they
contest each other. -/
theorem place_ne_iff {a b : Artifact} (ha : a ∈ Report.produced (g.outcomes commands))
    (hb : b ∈ Report.produced (g.outcomes commands)) :
    (g.stays commands a = true → g.stays commands b = true → place a ≠ place b) ↔
      (a.command = b.command → place a = place b →
        Contested (Report.produced (g.outcomes commands)) g.supportFiles a) := by
  rw [stays_iff ha, stays_iff hb]
  constructor
  · intro h hc hp
    by_contra hna
    -- One command has one normalized name, so what contests either of the two contests both.
    have hname : a.commandName = b.commandName := by
      have h := (normalize_command ha).symm.trans (hc ▸ normalize_command hb)
      exact Except.ok.inj h
    refine h hna ?_ hp
    rwa [Contested, ← hc, ← hp, ← hname]
  · intro h hna hnb hp
    by_cases hc : a.command = b.command
    · exact hna (h hc hp)
    · exact hna (.inl ⟨b, hb, Ne.symm hc, .inr hp.symm⟩)

variable (g commands)

theorem nodup_places_iff :
    ((g.run commands).artifacts.map place).Nodup ↔
      (Report.produced (g.outcomes commands)).Pairwise fun a b =>
        a.command = b.command → place a = place b →
          Contested (Report.produced (g.outcomes commands)) g.supportFiles a := by
  rw [((perm_artifacts_run g commands).map place).nodup_iff, List.Nodup, List.pairwise_map,
    List.pairwise_filter]
  exact List.Pairwise.iff_of_mem fun ha hb => place_ne_iff ha hb

/-- **No output is overwritten** exactly when any two artifacts that are produced for one command
and one path are contested from elsewhere. No artifact ever has the path of a support file. -/
theorem nodup_paths_iff (g : Generator) (commands : List CommandDef) :
    let r := g.run commands
    let produced := Report.produced (g.outcomes commands)
    ((r.artifacts.map place).Nodup ↔ produced.Pairwise fun a b =>
        a.command = b.command → place a = place b → Contested produced r.supportFiles a) ∧
      ∀ a ∈ r.artifacts, ∀ s ∈ r.supportFiles, place a ≠ Path.components s.path := by
  refine ⟨nodup_places_iff g commands, ?_⟩
  intro a ha s hs he
  obtain ⟨hmem, hstays⟩ := List.mem_filter.1 ((perm_artifacts_run g commands).subset ha)
  exact (stays_iff hmem).1 hstays (.inr ⟨s, hs, he.symm⟩)

/-- One command written twice by one emitter, and one command that two languages write to one
place: every artifact stays. -/
theorem exists_overwrite :
    let e : Emitter := ⟨"text", fun m => m.commandName ++ ".txt", fun _ => .ok "", []⟩
    let one : Generator := Generator.register {} "out" e
    let two : Generator := one.register "out/" e
    ¬ ((one.run [⟨"Ping", none, []⟩, ⟨"Ping", none, [⟨"id", .integer, none⟩]⟩]).artifacts.map
        place).Nodup ∧
      ¬ ((two.run [⟨"Ping", none, []⟩]).artifacts.map place).Nodup := by
  intro e one two
  rw [((perm_artifacts_run one _).map place).nodup_iff,
    ((perm_artifacts_run two _).map place).nodup_iff]
  decide +kernel

/-! ## Different names -/

theorem nodup_languages : g.languages.Nodup := by
  rw [languages, List.Nodup, List.pairwise_map]
  exact g.sorted.imp fun h => Std.ne_of_lt h

/-- When every command is defined once and each is written to different paths in different
languages, the outputs have different paths. -/
theorem nodup_places_of_nodup_names (hn : (commands.map (·.name)).Nodup)
    (hp : ∀ a ∈ Report.produced (g.outcomes commands),
      ∀ b ∈ Report.produced (g.outcomes commands),
        a.command = b.command → place a = place b → a.language = b.language) :
    ((g.run commands).artifacts.map place).Nodup := by
  have hpairs : ((Report.produced (g.outcomes commands)).map Artifact.pair).Nodup := by
    refine (Report.map_pair_produced_sublist _).nodup ?_
    rw [map_pair_outcomes]
    exact hn.product g.nodup_languages
  rw [nodup_places_iff]
  rw [List.Nodup, List.pairwise_map] at hpairs
  refine hpairs.imp_of_mem fun ha hb hne hc hplace => ?_
  exact absurd (Prod.ext hc (hp _ ha _ hb hc hplace)) hne

end Generator

end CommandForge
