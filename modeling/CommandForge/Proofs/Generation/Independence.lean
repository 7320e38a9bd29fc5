import Mathlib.Data.List.Nodup
import CommandForge.Proofs.Generation.Builtin
/-!
# What a pair does not depend on

With built-in targets a produced artifact is refused only for its normalized name or for a support
file, since no two names have one path (`find?_eq_of_perm`). So what becomes of a pair depends on
the other commands through those of its own normalized name alone: their order does not matter
(`run_eq_of_perm`), and neither does a command of another name, or one that is produced in no
language (`run_insert`).
-/

namespace CommandForge

/-! ## The smallest of some texts -/

theorem le_of_least?_eq_some {names : List String} {s t : String} (h : least? names = some s)
    (ht : t ∈ names) : s ≤ t := by
  induction names generalizing s with
  | nil => contradiction
  | cons u rest ih =>
    simp only [least?] at h
    split at h
    · rename_i hnone
      obtain rfl := Option.some.inj h
      rw [least?_eq_none_iff.1 hnone] at ht
      rw [List.mem_singleton.1 ht]
    · rename_i v hv
      have hrest : t ∈ rest → v ≤ t := ih hv
      obtain rfl := Option.some.inj h
      split
      · rename_i hlt
        rcases List.mem_cons.1 ht with rfl | ht
        · exact Std.le_of_lt hlt
        · exact hrest ht
      · rename_i hlt
        rcases List.mem_cons.1 ht with rfl | ht
        · exact String.le_refl t
        · exact String.le_trans (String.not_lt.1 hlt) (hrest ht)

theorem least?_eq_of_perm {names names' : List String} (h : names.Perm names') :
    least? names = least? names' := by
  cases hs : least? names with
  | none =>
    rw [least?_eq_none_iff.1 hs] at h
    rw [h.symm.eq_nil]
    rfl
  | some s =>
    cases hs' : least? names' with
    | none =>
      rw [least?_eq_none_iff.1 hs'] at h
      rw [h.eq_nil] at hs
      contradiction
    | some s' =>
      have hle := le_of_least?_eq_some hs (h.symm.subset (mem_of_least?_eq_some hs'))
      have hle' := le_of_least?_eq_some hs' (h.subset (mem_of_least?_eq_some hs))
      rw [String.le_antisymm hle hle']

/-! ## Reports and the order of outcomes -/

theorem pairPrecedes_antisymm {p q : String × String} (h : PairPrecedes p q)
    (h' : PairPrecedes q p) : p = q := by
  rw [← pairLE_iff_pairPrecedes, pairLE_iff] at h h'
  rcases h with hlt | ⟨heq, hle⟩
  · rcases h' with hlt' | ⟨heq', -⟩
    · exact absurd (String.lt_trans hlt hlt') (String.lt_irrefl _)
    · exact absurd (heq' ▸ hlt) (String.lt_irrefl _)
  · rcases h' with hlt' | ⟨-, hle'⟩
    · exact absurd (heq ▸ hlt') (String.lt_irrefl _)
    · exact Prod.ext heq (String.le_antisymm hle hle')

/-- There is one way to put things with different pairs in the order of reports. -/
theorem eq_of_perm_of_precedes {α : Type} (pair : α → String × String) {xs ys : List α}
    (h : xs.Perm ys) (hn : (xs.map pair).Nodup)
    (hxs : xs.Pairwise fun a b => PairPrecedes (pair a) (pair b))
    (hys : ys.Pairwise fun a b => PairPrecedes (pair a) (pair b)) : xs = ys := by
  refine h.eq_of_pairwise (fun a b ha hb hab hba => ?_) hxs hys
  exact List.inj_on_of_nodup_map hn ha (h.symm.subset hb) (pairPrecedes_antisymm hab hba)

namespace Report

variable {os os' : List Outcome} {supportFiles : List SupportArtifact}

theorem map_pair_failed_sublist (outcomes : List Outcome) :
    ((failed outcomes).map PairFailure.pair).Sublist (outcomes.map Outcome.pair) := by
  induction outcomes with
  | nil => exact .slnil
  | cons o outcomes ih =>
    cases o with
    | ok a => exact ih.cons a.pair
    | error f => exact ih.cons_cons f.pair

theorem produced_perm (h : os.Perm os') : (produced os).Perm (produced os') := h.filterMap _

theorem failed_perm (h : os.Perm os') : (failed os).Perm (failed os') := h.filterMap _

/-- Outcomes kept by their pairs are produced and failed as before. -/
theorem produced_filter (keep : String × String → Bool) (os : List Outcome) :
    produced (os.filter fun o => keep o.pair) = (produced os).filter fun a => keep a.pair := by
  rw [produced, produced, List.filterMap_filter, List.filter_filterMap]
  congr 1
  funext o
  cases o with
  | ok a => by_cases hk : keep a.pair <;> simp [Outcome.pair, hk, Option.filter]
  | error f => by_cases hk : keep f.pair <;> simp [Outcome.pair, hk]

theorem failed_filter (keep : String × String → Bool) (os : List Outcome) :
    failed (os.filter fun o => keep o.pair) = (failed os).filter fun f => keep f.pair := by
  rw [failed, failed, List.filterMap_filter, List.filter_filterMap]
  congr 1
  funext o
  cases o with
  | ok a => by_cases hk : keep a.pair <;> simp [Outcome.pair, hk]
  | error f => by_cases hk : keep f.pair <;> simp [Outcome.pair, hk, Option.filter]

theorem mergeSort_pair_eq {α : Type} {pair : α → String × String} {xs ys : List α}
    (h : xs.Perm ys) (hn : (xs.map pair).Nodup) :
    (xs.mergeSort fun a b => pairLE (pair a) (pair b)) =
      ys.mergeSort fun a b => pairLE (pair a) (pair b) := by
  have hxs := List.mergeSort_perm xs fun a b => pairLE (pair a) (pair b)
  have hys := List.mergeSort_perm ys fun a b => pairLE (pair a) (pair b)
  refine eq_of_perm_of_precedes pair (hxs.trans (h.trans hys.symm)) ?_
    (pairwise_mergeSort_pair pair xs) (pairwise_mergeSort_pair pair ys)
  exact (hxs.map pair).nodup_iff.2 hn

/-- Sorting by pairs and keeping some of them can be done in either order. -/
theorem mergeSort_pair_filter {α : Type} {pair : α → String × String}
    (keep : String × String → Bool) {xs : List α} (hn : (xs.map pair).Nodup) :
    ((xs.mergeSort fun a b => pairLE (pair a) (pair b)).filter fun a => keep (pair a)) =
      (xs.filter fun a => keep (pair a)).mergeSort fun a b => pairLE (pair a) (pair b) := by
  have hperm := (List.mergeSort_perm xs fun a b => pairLE (pair a) (pair b)).filter
    fun a => keep (pair a)
  refine eq_of_perm_of_precedes pair (hperm.trans (List.mergeSort_perm _ _).symm) ?_
    ((pairwise_mergeSort_pair pair xs).filter _) (pairwise_mergeSort_pair pair _)
  refine (hperm.map pair).nodup_iff.2 ?_
  exact (List.filter_sublist.map pair).nodup hn

theorem ofOutcomes_eq_of_perm (h : os.Perm os') (hn : (os.map Outcome.pair).Nodup) :
    ofOutcomes os supportFiles = ofOutcomes os' supportFiles := by
  have hproduced := (map_pair_produced_sublist os).nodup hn
  have hfailed := (map_pair_failed_sublist os).nodup hn
  rw [ofOutcomes, ofOutcomes, mergeSort_pair_eq (produced_perm h) hproduced,
    mergeSort_pair_eq (failed_perm h) hfailed]

theorem filter_ofOutcomes (keep : String × String → Bool) (supportFiles : List SupportArtifact)
    (hn : (os.map Outcome.pair).Nodup) :
    ((ofOutcomes os supportFiles).artifacts.filter fun a => keep a.pair) =
        (ofOutcomes (os.filter fun o => keep o.pair) supportFiles).artifacts ∧
      ((ofOutcomes os supportFiles).failures.filter fun f => keep f.pair) =
        (ofOutcomes (os.filter fun o => keep o.pair) supportFiles).failures := by
  have hproduced := (map_pair_produced_sublist os).nodup hn
  have hfailed := (map_pair_failed_sublist os).nodup hn
  simp only [ofOutcomes, produced_filter, failed_filter]
  exact ⟨mergeSort_pair_filter keep hproduced, mergeSort_pair_filter keep hfailed⟩

end Report

namespace Collision

variable {produced produced' : List Artifact} {supportFiles : List SupportArtifact} {a : Artifact}

/-- What one outcome becomes among the produced artifacts. -/
def settle (produced : List Artifact) (supportFiles : List SupportArtifact) : Outcome → Outcome
  | .error f => .error f
  | .ok a =>
    match find? produced (writers produced supportFiles) a with
    | some error => .error ⟨a.command, a.language, error⟩
    | none => .ok a

theorem reject_eq_map (outcomes : List Outcome) (supportFiles : List SupportArtifact) :
    reject outcomes supportFiles =
      outcomes.map (settle (Report.produced outcomes) supportFiles) := by
  refine List.map_congr_left fun o _ => ?_
  cases o <;> rfl

theorem pair_settle (o : Outcome) : (settle produced supportFiles o).pair = o.pair := by
  cases o with
  | error f => rfl
  | ok a =>
    simp only [settle]
    split <;> rfl

/-- When the paths of other names are other paths, an artifact whose name is its own can only
collide with a support file. -/
theorem otherWriter?_writers
    (hplace : ∀ b ∈ produced, place b = place a → b.commandName = a.commandName)
    (hsharing : sharing produced a = []) :
    otherWriter? (writers produced supportFiles) a =
      otherWriter? (supportFiles.map (·.writer)) a := by
  have hnone : otherWriter? (produced.map (·.writer)) a = none := by
    rw [otherWriter?_eq_none_iff]
    intro w hw hpath
    obtain ⟨b, hb, rfl⟩ := List.mem_map.1 hw
    exact sharing_eq_nil_iff.1 hsharing b hb (hplace b hb hpath)
  rw [otherWriter?] at hnone ⊢
  rw [writers, List.find?_append, hnone, Option.or_none, otherWriter?]

theorem find?_eq_of_perm
    (hplace : ∀ b ∈ produced, place b = place a → b.commandName = a.commandName)
    (hplace' : ∀ b ∈ produced', place b = place a → b.commandName = a.commandName)
    (h : (sharing produced a).Perm (sharing produced' a)) :
    find? produced (writers produced supportFiles) a =
      find? produced' (writers produced' supportFiles) a := by
  unfold find?
  rw [least?_eq_of_perm h]
  cases hleast : least? (sharing produced' a) with
  | some other => rfl
  | none =>
    -- No other command has the name, so the path is left to the support files.
    have hsharing' := least?_eq_none_iff.1 hleast
    have hsharing : sharing produced a = [] := (hsharing' ▸ h).eq_nil
    simp only [otherWriter?_writers hplace hsharing, otherWriter?_writers hplace' hsharing']

theorem filter_reject (keep : String × String → Bool) (outcomes : List Outcome)
    (supportFiles : List SupportArtifact) :
    ((reject outcomes supportFiles).filter fun o => keep o.pair) =
      (outcomes.filter fun o => keep o.pair).map
        (settle (Report.produced outcomes) supportFiles) := by
  have hpair : (fun o : Outcome => keep o.pair) ∘ settle (Report.produced outcomes) supportFiles =
      fun o => keep o.pair := by
    funext o
    rw [Function.comp_apply, pair_settle]
  rw [reject_eq_map, List.filter_map, hpair]

theorem sharing_perm (h : produced.Perm produced') :
    (sharing produced a).Perm (sharing produced' a) :=
  (h.filter _).map _

end Collision

/-! ## The order of the commands -/

namespace Generator

open Collision (place settle sharing)

variable {c : Config} {g : Generator} {commands commands' : List CommandDef}

theorem commandName_eq_of_place_eq (hg : ofConfig c = .ok g) {a : Artifact}
    (ha : a ∈ Report.produced (g.outcomes commands)) :
    ∀ b ∈ Report.produced (g.outcomes commands'), place b = place a →
      b.commandName = a.commandName :=
  fun _ hb => (isBuiltin_of_mem_produced hg hb).commandName_eq_of_place_eq
    (isBuiltin_of_mem_produced hg ha)

/-- A pair of the generator is settled alike among the artifacts of two lists of commands, when
the same commands share its normalized name. -/
theorem settle_eq_of_perm (hg : ofConfig c = .ok g) {o : Outcome} (ho : o ∈ g.outcomes commands)
    (h : ∀ a, o = .ok a → (sharing (Report.produced (g.outcomes commands)) a).Perm
      (sharing (Report.produced (g.outcomes commands')) a)) :
    settle (Report.produced (g.outcomes commands)) g.supportFiles o =
      settle (Report.produced (g.outcomes commands')) g.supportFiles o := by
  cases o with
  | error f => rfl
  | ok a =>
    have ha := Report.mem_produced.2 ho
    simp only [settle, Collision.find?_eq_of_perm (commandName_eq_of_place_eq hg ha)
      (commandName_eq_of_place_eq hg ha) (h a rfl)]

theorem nodup_pairs_reject (g : Generator) (hn : (commands.map (·.name)).Nodup) :
    ((Collision.reject (g.outcomes commands) g.supportFiles).map Outcome.pair).Nodup := by
  rw [Collision.map_pair_reject, map_pair_outcomes]
  exact hn.product g.nodup_languages

theorem exists_ofConfig (h : c.check = .ok ()) : ∃ g, ofConfig c = .ok g := by
  rw [ofConfig, h]
  exact ⟨_, rfl⟩

/-- **The order of the commands does not matter** to a generator of built-in targets, when every
command is defined once. -/
theorem run_eq_of_perm (hg : ofConfig c = .ok g) (hn : (commands.map (·.name)).Nodup)
    (h : commands.Perm commands') : g.run commands = g.run commands' := by
  have houtcomes : (g.outcomes commands).Perm (g.outcomes commands') := h.flatMap_right _
  have hsettle : ∀ o ∈ g.outcomes commands,
      settle (Report.produced (g.outcomes commands)) g.supportFiles o =
        settle (Report.produced (g.outcomes commands')) g.supportFiles o := fun o ho =>
    settle_eq_of_perm hg ho fun _ _ => Collision.sharing_perm (Report.produced_perm houtcomes)
  refine Report.ofOutcomes_eq_of_perm ?_ (nodup_pairs_reject g hn)
  rw [Collision.reject_eq_map, Collision.reject_eq_map, List.map_congr_left hsettle]
  exact houtcomes.map _

theorem run_eq_of_perm_xmlPing :
    let commands : List CommandDef :=
      [⟨"XmlPing", none, []⟩, ⟨"Ping", none, []⟩, ⟨"XMLPing", none, []⟩]
    ∃ g, ofConfig {} = .ok g ∧ (commands.map (·.name)).Nodup ∧ commands.Perm commands.reverse ∧
      g.run commands = g.run commands.reverse := by
  intro commands
  have hn : (commands.map (·.name)).Nodup := by decide
  have hperm : commands.Perm commands.reverse := (List.reverse_perm commands).symm
  obtain ⟨g, hg⟩ := exists_ofConfig (c := {}) (by decide +kernel)
  exact ⟨g, hg, hn, hperm, run_eq_of_perm hg hn hperm⟩

/-! ## One more command -/

/-- The command has a normalized name, and it is that of no other command. -/
def NameIsNew (d : CommandDef) (others : List CommandDef) : Prop :=
  ∃ name, Identifier.normalize d.name = .ok name ∧
    ∀ e ∈ others, Identifier.normalize e.name ≠ .ok name

/-- The command does not resolve, or no configured language emits it. -/
def FailsEverywhere (c : Config) (d : CommandDef) : Prop :=
  ∀ m, CommandModel.resolve d = .ok m →
    ∀ language ∈ c.languages, ∀ t, Target.builtin? language c = some t →
      ∃ error, t.emit m = .error error

variable {before after : List CommandDef} {d : CommandDef}

theorem mem_produced_of_mem {a : Artifact} {e : CommandDef}
    (ha : a ∈ Report.produced (g.outcomes commands)) (hn : (commands.map (·.name)).Nodup)
    (he : e ∈ commands) (hname : a.command = e.name) :
    ∃ language emitter, (language, emitter) ∈ g.emitters ∧ outcome e language emitter = .ok a := by
  obtain ⟨e', he', language, emitter, hmem, ho⟩ := mem_produced_iff.1 ha
  have hsame := (command_eq_of_outcome ho).symm.trans hname
  obtain rfl := List.inj_on_of_nodup_map hn he' he hsame
  exact ⟨language, emitter, hmem, ho⟩

/-- A command with a new name, or one that fails everywhere, is produced under no name of
another. -/
theorem commandName_ne (hg : ofConfig c = .ok g)
    (hn : ((before ++ d :: after).map (·.name)).Nodup)
    (hd : NameIsNew d (before ++ after) ∨ FailsEverywhere c d) {a b : Artifact}
    (ha : a ∈ Report.produced (g.outcomes (before ++ after)))
    (hb : b ∈ Report.produced (g.outcomes (before ++ d :: after))) (hcommand : b.command = d.name) :
    b.commandName ≠ a.commandName := by
  rcases hd with ⟨name, hname, hnew⟩ | hfails
  · intro heq
    have hnormalize := normalize_command hb
    rw [hcommand, hname] at hnormalize
    obtain rfl := Except.ok.inj hnormalize
    obtain ⟨e, he, language, emitter, -, ho⟩ := mem_produced_iff.1 ha
    have ha' := heq ▸ normalize_command ha
    exact hnew e he (command_eq_of_outcome ho ▸ ha')
  · -- `d` is the only command of its name, so the artifact was made for it.
    have hmem : d ∈ before ++ d :: after := List.mem_append_right _ List.mem_cons_self
    obtain ⟨language, e, he, ho⟩ := mem_produced_of_mem hb hn hmem hcommand
    obtain ⟨hlanguage, t, ht, rfl⟩ := mem_emitters_ofConfig hg he
    obtain ⟨m, content, hm, hemit, -⟩ := outcome_eq_ok ho
    obtain ⟨error, herror⟩ := hfails m hm language hlanguage t ht
    have hemit : t.emit m = .ok content := hemit
    rw [herror] at hemit
    contradiction

theorem filter_outcomes (keep : String → Bool) (commands : List CommandDef) :
    ((g.outcomes commands).filter fun o => keep o.pair.1) =
      g.outcomes (commands.filter fun d => keep d.name) := by
  induction commands with
  | nil => rfl
  | cons d commands ih =>
    have hcons : g.outcomes (d :: commands) =
        (g.emitters.map fun p => outcome d p.1 p.2) ++ g.outcomes commands := rfl
    rw [hcons, List.filter_append, ih]
    cases hd : keep d.name with
    | true =>
      rw [List.filter_cons, if_pos hd, List.filter_eq_self.2]
      · rfl
      · intro o ho
        obtain ⟨p, -, rfl⟩ := List.mem_map.1 ho
        rw [pair_outcome, hd]
    | false =>
      rw [List.filter_cons, if_neg (by simp [hd]), List.filter_eq_nil_iff.2]
      · rfl
      · intro o ho
        obtain ⟨p, -, rfl⟩ := List.mem_map.1 ho
        simp [pair_outcome, hd]

theorem filter_insert (hn : ((before ++ d :: after).map (·.name)).Nodup) :
    ((before ++ d :: after).filter fun e => e.name ≠ d.name) = before ++ after := by
  have hothers : d.name ∉ (before ++ after).map (·.name) := by
    have hperm : (before ++ d :: after).Perm (d :: (before ++ after)) := List.perm_middle
    exact (List.nodup_cons.1 ((hperm.map (·.name)).nodup_iff.1 hn)).1
  rw [List.filter_append, List.filter_cons_of_neg (by simp), ← List.filter_append,
    List.filter_eq_self]
  intro e he
  rw [decide_eq_true_eq]
  exact fun hname => hothers (List.mem_map.2 ⟨e, he, hname⟩)

theorem filter_outcomes_insert (hn : ((before ++ d :: after).map (·.name)).Nodup) :
    ((g.outcomes (before ++ d :: after)).filter fun o => decide (o.pair.1 ≠ d.name)) =
      g.outcomes (before ++ after) := by
  rw [filter_outcomes fun name => decide (name ≠ d.name), filter_insert hn]

/-- The name of an artifact is shared by the commands that share it without `d`. -/
theorem sharing_insert (hg : ofConfig c = .ok g)
    (hn : ((before ++ d :: after).map (·.name)).Nodup)
    (hd : NameIsNew d (before ++ after) ∨ FailsEverywhere c d) {a : Artifact}
    (ha : a ∈ Report.produced (g.outcomes (before ++ after))) :
    sharing (Report.produced (g.outcomes (before ++ d :: after))) a =
      sharing (Report.produced (g.outcomes (before ++ after))) a := by
  rw [sharing, sharing, ← filter_outcomes_insert hn,
    Report.produced_filter fun p => decide (p.1 ≠ d.name), List.filter_filter]
  congr 1
  refine List.filter_congr fun b hb => ?_
  by_cases hcommand : b.command = d.name
  · have hne := commandName_ne hg hn hd ha hb hcommand
    simp [hne]
  · simp [Artifact.pair, hcommand]

/-- **What is added to a run changes nothing else in it**, when it is a command with a name of its
own that has a normalized name of its own or that fails everywhere: the artifacts and failures of
the other commands and the support files stay what they are. -/
theorem run_insert (hg : ofConfig c = .ok g) (hn : ((before ++ d :: after).map (·.name)).Nodup)
    (hd : NameIsNew d (before ++ after) ∨ FailsEverywhere c d) :
    let r := g.run (before ++ after)
    let r' := g.run (before ++ d :: after)
    r'.artifacts.filter (fun a => a.command ≠ d.name) = r.artifacts ∧
      r'.failures.filter (fun f => f.command ≠ d.name) = r.failures ∧
      r'.supportFiles = r.supportFiles := by
  have hsettle : ∀ o ∈ g.outcomes (before ++ after),
      settle (Report.produced (g.outcomes (before ++ d :: after))) g.supportFiles o =
        settle (Report.produced (g.outcomes (before ++ after))) g.supportFiles o := by
    intro o ho
    refine (settle_eq_of_perm hg ho fun a ha => ?_).symm
    exact .of_eq (sharing_insert hg hn hd (Report.mem_produced.2 (ha ▸ ho))).symm
  have hreject : (Collision.reject (g.outcomes (before ++ d :: after)) g.supportFiles).filter
      (fun o => decide (o.pair.1 ≠ d.name)) =
        Collision.reject (g.outcomes (before ++ after)) g.supportFiles := by
    rw [Collision.filter_reject fun p => decide (p.1 ≠ d.name), filter_outcomes_insert hn,
      Collision.reject_eq_map]
    exact List.map_congr_left hsettle
  have hfilter := Report.filter_ofOutcomes (fun p => decide (p.1 ≠ d.name)) g.supportFiles
    (nodup_pairs_reject g hn)
  rw [hreject] at hfilter
  exact ⟨hfilter.1, hfilter.2, rfl⟩

/-- A command with a name of its own, and one with the name of another that fails for its field. -/
theorem run_insert_ping :
    let ping : CommandDef := ⟨"Ping", none, []⟩
    let wave : CommandDef := ⟨"Wave", none, []⟩
    let pong : CommandDef := ⟨"Pong", none, []⟩
    let blob : CommandDef := ⟨"PING", none, [⟨"data", .custom "Blob", none⟩]⟩
    ∃ g, ofConfig {} = .ok g ∧ ∀ d ∈ [pong, blob],
      (NameIsNew d ([ping] ++ [wave]) ∨ FailsEverywhere {} d) ∧
        (([ping] ++ d :: [wave]).map (·.name)).Nodup ∧
        (g.run ([ping] ++ d :: [wave])).artifacts.filter (fun a => a.command ≠ d.name) =
          (g.run ([ping] ++ [wave])).artifacts ∧
        (g.run ([ping] ++ d :: [wave])).failures.filter (fun f => f.command ≠ d.name) =
          (g.run ([ping] ++ [wave])).failures ∧
        (g.run ([ping] ++ d :: [wave])).supportFiles = (g.run ([ping] ++ [wave])).supportFiles := by
  intro ping wave pong blob
  obtain ⟨g, hg⟩ := exists_ofConfig (c := {}) (by decide +kernel)
  have hpong : NameIsNew pong ([ping] ++ [wave]) := by
    have hnew : ∀ e ∈ [ping] ++ [wave], Identifier.normalize e.name ≠ .ok "pong" := by
      decide +kernel
    exact ⟨"pong", by decide +kernel, hnew⟩
  have hblob : FailsEverywhere {} blob := by
    have hresolve : CommandModel.resolve blob =
        .ok ⟨"PING", "ping", none, [⟨"data", "data", .custom "Blob", none⟩]⟩ := by decide +kernel
    intro m hm language _ t ht
    obtain rfl := Except.ok.inj (hresolve.symm.trans hm)
    unfold Target.builtin? at ht
    split at ht
    case h_7 => contradiction
    all_goals
      obtain rfl := Option.some.inj ht
      exact ⟨_, rfl⟩
  refine ⟨g, hg, fun d hd => ?_⟩
  have hor : NameIsNew d ([ping] ++ [wave]) ∨ FailsEverywhere {} d := by
    rcases List.mem_pair.1 hd with rfl | rfl
    · exact .inl hpong
    · exact .inr hblob
  have hn : (([ping] ++ d :: [wave]).map (·.name)).Nodup := by
    rcases List.mem_pair.1 hd with rfl | rfl <;> decide
  exact ⟨hor, hn, run_insert hg hn hor⟩

end Generator

end CommandForge
