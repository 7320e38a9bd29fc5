import Mathlib.Data.List.Nodup
import CommandForge.Proofs.Files.Path
import CommandForge.Proofs.Generation.Rejection
import CommandForge.Proofs.Identifier.NameChars
import CommandForge.Proofs.Lists
import CommandForge.Proofs.Target.SourceLines
/-!
# Generators of built-in targets

What a configuration's generator writes, and where. Every file of a language has the language's
own extension behind a stem of name characters (`Target.IsFileName`), so a file name tells its
language, and in it the stem tells the command. Hence two artifacts on one path have one normalized
name (`commandName_eq_of_place_eq`), and commands that are each defined once are all written to
files of different names (`Generator.nodup_fileNames`).
-/

namespace CommandForge

open Identifier (IsName isName_lit)

/-! ## File names -/

namespace Target

/-- The extension of the files of a built-in language. -/
def extension (language : String) : String :=
  match language with
  | "python" => "py"
  | "javascript" => "js"
  | "csharp" => "cs"
  | "cplusplus" => "hpp"
  | "java" => "java"
  | "rust" => "rs"
  | _ => ""

/-- C# and Java name a file for the class in it, the other languages for the normalized name. -/
def stem (language command commandName : String) : String :=
  if language = "csharp" ∨ language = "java" then command else commandName

/-- The stems of the support files of a built-in language. -/
def supportStems (language : String) : List String :=
  match language with
  | "python" => ["__init__", "base_command"]
  | "javascript" => ["BaseCommand"]
  | "csharp" => ["BaseCommand"]
  | "cplusplus" => ["base_command"]
  | "java" => ["Command"]
  | _ => []

/-- The name of a file of the language: ASCII letters, digits and underscores, a dot, and the
extension of the language. -/
def IsFileName (language name : String) : Prop :=
  ∃ stem : String, stem ≠ "" ∧ IsName stem ∧ name = stem ++ "." ++ extension language

theorem isName_extension {language : String} (h : language ∈ builtinLanguages) :
    IsName (extension language) := by
  simp only [builtinLanguages, List.mem_cons, List.not_mem_nil, or_false] at h
  rcases h with rfl | rfl | rfl | rfl | rfl | rfl <;> exact isName_lit rfl rfl

theorem isName_of_mem_supportStems {language s : String} (h : s ∈ supportStems language) :
    s ≠ "" ∧ IsName s := by
  unfold supportStems at h
  split at h
  case h_1 =>
    simp only [List.mem_cons, List.not_mem_nil, or_false] at h
    rcases h with rfl | rfl <;> exact ⟨by decide, isName_lit rfl rfl⟩
  case h_6 => contradiction
  all_goals
    obtain rfl := List.mem_singleton.1 h
    exact ⟨by decide, isName_lit rfl rfl⟩

theorem extension_inj {language language' : String} (h : language ∈ builtinLanguages)
    (h' : language' ∈ builtinLanguages) (he : extension language = extension language') :
    language = language' := by
  have hall : ∀ l ∈ builtinLanguages, ∀ l' ∈ builtinLanguages,
      extension l = extension l' → l = l' := by decide
  exact hall language h language' h' he

/-- A file name falls into its stem and its extension in one way. -/
theorem stem_append_inj {s s' x x' : String} (hs : IsName s) (hs' : IsName s')
    (h : s ++ "." ++ x = s' ++ "." ++ x') : s = s' ∧ x = x' := by
  have hlist := congrArg String.toList h
  simp only [String.toList_append, List.append_assoc] at hlist
  obtain ⟨hstem, hext⟩ := append_cons_inj (s := '.') (hs.notMem rfl) (hs'.notMem rfl) hlist
  exact ⟨String.toList_inj.1 hstem, String.toList_inj.1 hext⟩

theorem IsFileName.language_eq {language language' name : String}
    (hl : language ∈ builtinLanguages) (hl' : language' ∈ builtinLanguages)
    (h : IsFileName language name) (h' : IsFileName language' name) : language = language' := by
  obtain ⟨s, -, hs, rfl⟩ := h
  obtain ⟨s', -, hs', he⟩ := h'
  exact extension_inj hl hl' (stem_append_inj hs hs' he).2

theorem IsFileName.isEntryName {language name : String} (hl : language ∈ builtinLanguages)
    (h : IsFileName language name) : Path.IsEntryName name := by
  obtain ⟨s, hne, hs, rfl⟩ := h
  have hext := isName_extension hl
  cases hlist : s.toList with
  | nil => exact absurd (String.toList_eq_nil_iff.1 hlist) hne
  | cons c cs =>
    have hc : c ≠ '.' := by
      rintro rfl
      exact hs.notMem rfl (hlist ▸ List.mem_cons_self)
    have hslash : '/' ∉ c :: cs := hlist ▸ hs.notMem rfl
    constructor
    · simp [hlist]
    · simp [hlist, hc]
    · simp [hlist, hc]
    · have hslash' : '/' ∉ (extension language).toList := hext.notMem rfl
      simp only [String.toList_append, hlist, List.mem_append, not_or]
      exact ⟨⟨hslash, by decide⟩, hslash'⟩

theorem isEntryName_language {language : String} (h : language ∈ builtinLanguages) :
    Path.IsEntryName language := by
  have hall : ∀ l ∈ builtinLanguages, Path.IsEntryName l := by decide
  exact hall language h

theorem mem_builtinLanguages {language : String} {c : Config} {t : Target}
    (h : builtin? language c = some t) : language ∈ builtinLanguages := by
  unfold builtin? at h
  split at h
  case h_7 => contradiction
  all_goals decide

theorem fileName_builtin {language : String} {c : Config} {t : Target}
    (h : builtin? language c = some t) (m : CommandModel) :
    t.fileName m = stem language m.typeName m.commandName ++ "." ++ extension language := by
  unfold builtin? at h
  split at h
  case h_7 => contradiction
  all_goals
    obtain rfl := Option.some.inj h
    simp only [String.append_assoc]
    rfl

theorem supportFiles_builtin {language : String} {c : Config} {t : Target}
    (h : builtin? language c = some t) :
    t.supportFiles.map (·.fileName) =
      (supportStems language).map fun stem => stem ++ "." ++ extension language := by
  unfold builtin? at h
  split at h
  case h_7 => contradiction
  all_goals
    obtain rfl := Option.some.inj h
    rfl

theorem isFileName_of_mem_supportFiles {language : String} {c : Config} {t : Target}
    (h : builtin? language c = some t) {f : SupportFile} (hf : f ∈ t.supportFiles) :
    IsFileName language f.fileName := by
  have hname : f.fileName ∈ t.supportFiles.map (·.fileName) := List.mem_map.2 ⟨f, hf, rfl⟩
  rw [supportFiles_builtin h] at hname
  obtain ⟨s, hs, he⟩ := List.mem_map.1 hname
  obtain ⟨hne, hchars⟩ := isName_of_mem_supportStems hs
  exact ⟨s, hne, hchars, he.symm⟩

theorem nodup_supportFiles {language : String} {c : Config} {t : Target}
    (h : builtin? language c = some t) : (t.supportFiles.map (·.fileName)).Nodup := by
  have hall : ∀ l ∈ builtinLanguages,
      ((supportStems l).map fun stem => stem ++ "." ++ extension l).Nodup := by decide +kernel
  rw [supportFiles_builtin h]
  exact hall language (mem_builtinLanguages h)

end Target

/-! ## Emitters -/

namespace Generator

variable {c : Config} {g : Generator}

theorem mem_emitters_registerBuiltin {language l : String} {e : Emitter}
    (h : (l, e) ∈ (registerBuiltin c g language).emitters) :
    (l, e) ∈ g.emitters ∨ l = language ∧ ∃ t, Target.builtin? l c = some t ∧ e = t.emitter := by
  unfold registerBuiltin at h
  split at h
  · rename_i t ht
    rcases mem_insertSorted h with he | h
    · obtain ⟨rfl, rfl⟩ := Prod.mk.inj he
      exact .inr ⟨rfl, t, ht, rfl⟩
    · exact .inl h
  · exact .inl h

theorem mem_emitters_foldl {languages : List String} {l : String} {e : Emitter}
    (h : (l, e) ∈ (languages.foldl (registerBuiltin c) g).emitters) :
    (l, e) ∈ g.emitters ∨ l ∈ languages ∧ ∃ t, Target.builtin? l c = some t ∧ e = t.emitter := by
  induction languages generalizing g with
  | nil => exact .inl h
  | cons language languages ih =>
    rcases ih h with h | ⟨hl, ht⟩
    · rcases mem_emitters_registerBuiltin h with h | ⟨rfl, ht⟩
      · exact .inl h
      · exact .inr ⟨List.mem_cons_self, ht⟩
    · exact .inr ⟨List.mem_cons_of_mem language hl, ht⟩

/-- The generator of a configuration has the built-in targets of configured languages. -/
theorem mem_emitters_ofConfig (hg : ofConfig c = .ok g) {l : String} {e : Emitter}
    (h : (l, e) ∈ g.emitters) :
    l ∈ c.languages ∧ ∃ t, Target.builtin? l c = some t ∧ e = t.emitter := by
  unfold ofConfig at hg
  split at hg
  · contradiction
  · obtain rfl := Except.ok.inj hg
    rcases mem_emitters_foldl h with h | h
    · contradiction
    · exact h

end Generator

/-! ## Artifacts -/

/-- What is known of an artifact that a built-in target has produced. -/
structure Artifact.IsBuiltin (c : Config) (a : Artifact) : Prop where
  language_mem : a.language ∈ c.languages
  language_builtin : a.language ∈ builtinLanguages
  normalized : Identifier.normalize a.command = .ok a.commandName
  fileName_eq : a.fileName =
    Target.stem a.language a.command a.commandName ++ "." ++ Target.extension a.language

theorem Target.isFileName_stem {language command commandName : String}
    (h : Identifier.normalize command = .ok commandName) :
    Target.IsFileName language
      (Target.stem language command commandName ++ "." ++ Target.extension language) := by
  obtain ⟨hcommand, hname⟩ := Identifier.ne_empty_of_normalize h
  refine ⟨_, ?_, ?_, rfl⟩
  · unfold stem
    split
    · exact hcommand
    · exact hname
  · unfold stem
    split
    · intro ch hch
      have halnum := Identifier.isAlphanum_of_fault?_eq_none (Identifier.normalize_eq_ok_iff.1 h).1
      exact Identifier.isNameChar_of_isAlphanum (halnum ch hch)
    · exact Identifier.isName_of_isWireChar (Identifier.isWireChar_of_normalize h)

theorem Generator.isBuiltin_of_mem_produced {c : Config} {g : Generator}
    (hg : Generator.ofConfig c = .ok g) {commands : List CommandDef} {a : Artifact}
    (h : a ∈ Report.produced (g.outcomes commands)) : a.IsBuiltin c := by
  obtain ⟨d, -, language, e, he, ho⟩ := mem_produced_iff.1 h
  obtain ⟨hlanguage, t, ht, rfl⟩ := mem_emitters_ofConfig hg he
  obtain ⟨m, content, hm, -, rfl⟩ := outcome_eq_ok ho
  exact ⟨hlanguage, Target.mem_builtinLanguages ht,
    (CommandModel.resolved_of_resolve hm).normalized, Target.fileName_builtin ht m⟩

namespace Artifact.IsBuiltin

open Collision (place)

variable {c : Config} {a b : Artifact}

theorem isFileName (ha : a.IsBuiltin c) : Target.IsFileName a.language a.fileName := by
  rw [ha.fileName_eq]
  exact Target.isFileName_stem ha.normalized

theorem language_eq_of_fileName_eq (ha : a.IsBuiltin c) (hb : b.IsBuiltin c)
    (h : a.fileName = b.fileName) : a.language = b.language := by
  have hname : Target.IsFileName a.language b.fileName := h ▸ ha.isFileName
  exact hname.language_eq ha.language_builtin hb.language_builtin hb.isFileName

theorem place_eq (ha : a.IsBuiltin c) :
    place a = [.name a.language.toList, .name a.fileName.toList] :=
  Path.components_join (Target.isEntryName_language ha.language_builtin)
    (ha.isFileName.isEntryName ha.language_builtin)

theorem place_eq_iff (ha : a.IsBuiltin c) (hb : b.IsBuiltin c) :
    place a = place b ↔ a.fileName = b.fileName := by
  rw [ha.place_eq, hb.place_eq]
  constructor
  · intro h
    simp only [List.cons.injEq, Path.Component.name.injEq, String.toList_inj, and_true] at h
    exact h.2
  · intro h
    rw [h, ha.language_eq_of_fileName_eq hb h]

/-- On one path there is one normalized name, whether files are named for it or for the type. -/
theorem commandName_eq_of_place_eq (ha : a.IsBuiltin c) (hb : b.IsBuiltin c)
    (h : place a = place b) : a.commandName = b.commandName := by
  have hfile := (ha.place_eq_iff hb).1 h
  have hlanguage := ha.language_eq_of_fileName_eq hb hfile
  rw [ha.fileName_eq, hb.fileName_eq, hlanguage] at hfile
  have hstem : Target.stem b.language a.command a.commandName =
      Target.stem b.language b.command b.commandName := by
    simpa using hfile
  unfold Target.stem at hstem
  split at hstem
  · -- A file that is named for the class tells the command itself.
    have hnormalized := ha.normalized
    rw [hstem, hb.normalized] at hnormalized
    exact (Except.ok.inj hnormalized).symm
  · exact hstem

end Artifact.IsBuiltin

/-! ## The files of a report -/

/-- The languages and names of the files of a report, artifacts first. -/
def Report.entries (r : Report) : List (String × String) :=
  r.artifacts.map (fun a => (a.language, a.fileName)) ++
    r.supportFiles.map fun s => (s.language, s.file.fileName)

namespace Generator

variable {c : Config} {g : Generator} {commands : List CommandDef}

theorem mem_supportFiles_iff {s : SupportArtifact} : s ∈ g.supportFiles ↔
    ∃ e, (s.language, e) ∈ g.emitters ∧ s.file ∈ e.supportFiles := by
  constructor
  · intro h
    obtain ⟨⟨language, e⟩, he, hs⟩ := List.mem_flatMap.1 h
    obtain ⟨file, hfile, rfl⟩ := List.mem_map.1 hs
    exact ⟨e, he, hfile⟩
  · rintro ⟨e, he, hfile⟩
    exact List.mem_flatMap.2 ⟨(s.language, e), he, List.mem_map.2 ⟨s.file, hfile, rfl⟩⟩

/-- Every file of a report is one of a configured language, and named like one. -/
theorem isFileName_of_mem_entries (hg : ofConfig c = .ok g) {language name : String}
    (h : (language, name) ∈ (g.run commands).entries) :
    language ∈ c.languages ∧ language ∈ builtinLanguages ∧ Target.IsFileName language name := by
  rcases List.mem_append.1 h with h | h
  · obtain ⟨a, ha, he⟩ := List.mem_map.1 h
    obtain ⟨rfl, rfl⟩ := Prod.mk.inj he
    have hbuiltin := isBuiltin_of_mem_produced hg (mem_artifacts_run_iff.1 ha).1
    exact ⟨hbuiltin.language_mem, hbuiltin.language_builtin, hbuiltin.isFileName⟩
  · obtain ⟨s, hs, he⟩ := List.mem_map.1 h
    obtain ⟨rfl, rfl⟩ := Prod.mk.inj he
    obtain ⟨e, he, hfile⟩ := mem_supportFiles_iff.1 hs
    obtain ⟨hlanguage, t, ht, rfl⟩ := mem_emitters_ofConfig hg he
    exact ⟨hlanguage, Target.mem_builtinLanguages ht,
      Target.isFileName_of_mem_supportFiles ht hfile⟩

theorem nodup_supportFiles (hg : ofConfig c = .ok g) :
    (g.supportFiles.map (·.file.fileName)).Nodup := by
  have hmap : g.supportFiles.map (·.file.fileName) =
      g.emitters.flatMap fun p => p.2.supportFiles.map (·.fileName) := by
    simp [supportFiles, List.map_flatMap, Function.comp_def]
  rw [hmap, List.nodup_flatMap]
  constructor
  · rintro ⟨language, e⟩ he
    obtain ⟨-, t, ht, rfl⟩ := mem_emitters_ofConfig hg he
    exact Target.nodup_supportFiles ht
  · refine g.sorted.imp_of_mem ?_
    rintro ⟨language, e⟩ ⟨language', e'⟩ he he' hlt name hname hname'
    obtain ⟨-, t, ht, rfl⟩ := mem_emitters_ofConfig hg he
    obtain ⟨-, t', ht', rfl⟩ := mem_emitters_ofConfig hg he'
    obtain ⟨f, hf, rfl⟩ := List.mem_map.1 hname
    obtain ⟨f', hf', hf''⟩ := List.mem_map.1 hname'
    have hfile := Target.isFileName_of_mem_supportFiles ht hf
    have hfile' := Target.isFileName_of_mem_supportFiles ht' hf'
    rw [hf''] at hfile'
    exact Std.ne_of_lt hlt (hfile.language_eq (Target.mem_builtinLanguages ht)
      (Target.mem_builtinLanguages ht') hfile')

theorem nodup_artifacts (hg : ofConfig c = .ok g) (hn : (commands.map (·.name)).Nodup) :
    ((g.run commands).artifacts.map (·.fileName)).Nodup := by
  have hplaces := nodup_places_of_nodup_names g commands hn fun a ha b hb _ hp => by
    have hbuiltin := isBuiltin_of_mem_produced hg ha
    have hbuiltin' := isBuiltin_of_mem_produced hg hb
    exact hbuiltin.language_eq_of_fileName_eq hbuiltin' ((hbuiltin.place_eq_iff hbuiltin').1 hp)
  rw [List.Nodup, List.pairwise_map] at hplaces ⊢
  refine hplaces.imp_of_mem fun ha hb hne hname => hne ?_
  have hbuiltin := isBuiltin_of_mem_produced hg (mem_artifacts_run_iff.1 ha).1
  have hbuiltin' := isBuiltin_of_mem_produced hg (mem_artifacts_run_iff.1 hb).1
  exact (hbuiltin.place_eq_iff hbuiltin').2 hname

/-- No two files of a report have one name, when every command is defined once. -/
theorem nodup_fileNames (hg : ofConfig c = .ok g) (hn : (commands.map (·.name)).Nodup) :
    ((g.run commands).entries.map (·.2)).Nodup := by
  rw [Report.entries, List.map_append, List.map_map, List.map_map, List.nodup_append]
  refine ⟨nodup_artifacts hg hn, nodup_supportFiles hg, ?_⟩
  rintro name hname _ hname' rfl
  obtain ⟨a, ha, rfl⟩ := List.mem_map.1 hname
  obtain ⟨s, hs, he⟩ := List.mem_map.1 hname'
  simp only [Function.comp_apply] at he
  obtain ⟨hproduced, hnot⟩ := mem_artifacts_run_iff.1 ha
  have hbuiltin := isBuiltin_of_mem_produced hg hproduced
  have hentry : (s.language, s.file.fileName) ∈ (g.run commands).entries :=
    List.mem_append_right _ (List.mem_map.2 ⟨s, hs, rfl⟩)
  obtain ⟨-, hlanguage, hfile⟩ := isFileName_of_mem_entries hg hentry
  rw [he] at hfile
  have hsame := hfile.language_eq hlanguage hbuiltin.language_builtin hbuiltin.isFileName
  refine hnot (.inr ⟨s, hs, ?_⟩)
  rw [SupportArtifact.path, hsame, he]
  rfl

end Generator

end CommandForge
