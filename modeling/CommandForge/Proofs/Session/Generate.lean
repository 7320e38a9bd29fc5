import Mathlib.Data.List.Nodup
import Mathlib.Data.Option.Basic
import CommandForge.Proofs.Files.Made
import CommandForge.Proofs.Generation.Builtin
import CommandForge.Proofs.Lists
import CommandForge.Proofs.Schema.Loaded
import CommandForge.Session
/-!
# What generating leaves in the file tree

A session writes the files of its report one after the other. No two of them lie at one location,
since no two have one name, so that each is found in the end as it was written; and nothing else is
changed but that missing directories are made (`generate_writes_report`).
-/

namespace CommandForge

/-! ## Writing files -/

namespace FileTree

variable {t : FileTree} {path text : String} {location : List String}

/-- The text of the file that a path leads to. -/
theorem readText_eq_ok (hfind : t.find path = .ok (.file location (.text text)))
    (hslash : endsInSlash path = false) : t.readText path = .ok text := by
  rw [readText, hfind]
  simp [hslash]

end FileTree

namespace Session

open FileTree (Writes)

variable {t u : FileTree} {files : List (String × String)}

theorem writeFile_eq_ok {path content : String} (h : writeFile t path content = (u, .ok ())) :
    ∃ made, t.makeAbove path = (made, .ok ()) ∧ made.write path (.text content) = .ok u := by
  unfold writeFile at h
  split at h
  · cases h
  · rename_i made hmade
    split at h
    · cases h
    · rename_i written hwrite
      obtain rfl : written = u := congrArg Prod.fst h
      exact ⟨made, hmade, hwrite⟩

theorem writes_of_writeFile {path content : String} (h : writeFile t path content = (u, .ok ())) :
    ∃ location, Writes [location] t u ∧ u.find path = .ok (.file location (.text content)) ∧
      FileTree.endsInSlash path = false := by
  obtain ⟨made, hmade, hwrite⟩ := writeFile_eq_ok h
  have habove := (FileTree.makes_makeAbove t path).writes
  rw [hmade] at habove
  obtain ⟨location, hwrites, hfind, hslash, -⟩ := FileTree.writes_of_write hwrite
  exact ⟨location, habove.trans hwrites, hfind, hslash⟩

theorem writeFiles_cons_eq_ok {f : String × String} (h : writeFiles t (f :: files) = (u, .ok ())) :
    ∃ written, writeFile t f.1 f.2 = (written, .ok ()) ∧ writeFiles written files = (u, .ok ()) := by
  unfold writeFiles at h
  split at h
  · cases h
  · exact ⟨_, ‹_›, h⟩

/-- Files that are written one after the other are all there, and if they lie at different locations
each is as it was written. -/
theorem writes_of_writeFiles (h : writeFiles t files = (u, .ok ())) :
    ∃ locations, Writes locations t u ∧ List.Forall₂ u.LeadsTo (files.map (·.1)) locations ∧
      (locations.Nodup → ∀ f ∈ files, u.readText f.1 = .ok f.2) := by
  induction files generalizing t with
  | nil =>
    obtain rfl : t = u := congrArg Prod.fst h
    exact ⟨[], .refl t, .nil, by simp⟩
  | cons f files ih =>
    obtain ⟨written, hwrite, h⟩ := writeFiles_cons_eq_ok h
    obtain ⟨location, hfirst, hfind, hslash⟩ := writes_of_writeFile hwrite
    obtain ⟨locations, hrest, hleads, hread⟩ := ih h
    have hlead : u.LeadsTo f.1 location := hrest.leadsTo ⟨_, hfind⟩
    refine ⟨location :: locations, hfirst.trans hrest, .cons hlead hleads, fun hn => ?_⟩
    obtain ⟨hnew, hn⟩ := List.nodup_cons.1 hn
    rw [List.forall_mem_cons]
    refine ⟨?_, hread hn⟩
    -- The later files are elsewhere, so this one is still as it was written.
    have hnode := hrest.node?_file hnew (FileTree.find_eq_ok_iff.1 hfind).2.stands.1
    exact FileTree.readText_eq_ok (FileTree.find_of_leadsTo hlead hnode) hslash

/-! ## The files of a report -/

variable {c : Config} {g : Generator} {commands : List CommandDef} {output : String}
  {locations : List (List String)}

theorem map_path_reportFiles (r : Report) (output : String) :
    (reportFiles r output).map (·.1) =
      r.entries.map fun e => Path.join output (Path.join e.1 e.2) := by
  simp [reportFiles, Report.entries, Artifact.path, SupportArtifact.path, Function.comp_def]

/-- The location is that of an entry of the directory for the language, under the name. -/
def LiesIn (t : FileTree) (output : String) (entry : String × String) (location : List String) :
    Prop :=
  ∃ directory, t.find (Path.join output entry.1) = .ok (.directory directory) ∧
    location = directory ++ [entry.2]

theorem liesIn_of_fileNames {entries : List (String × String)}
    (hnames : ∀ e ∈ entries, e.1 ∈ builtinLanguages ∧ Target.IsFileName e.1 e.2)
    (h : List.Forall₂ u.LeadsTo (entries.map fun e => Path.join output (Path.join e.1 e.2))
      locations) : List.Forall₂ (LiesIn u output) entries locations := by
  rw [List.forall₂_map_left_iff] at h
  refine ((List.forall₂_and_left _ _).2 ⟨hnames, h⟩).imp fun e l ⟨⟨hlanguage, hname⟩, hleads⟩ => ?_
  exact FileTree.directory_of_leadsTo (Target.isEntryName_language hlanguage)
    (hname.isEntryName hlanguage) hleads

theorem liesIn_of_leadsTo (hg : Generator.ofConfig c = .ok g)
    (h : List.Forall₂ u.LeadsTo ((reportFiles (g.run commands) output).map (·.1)) locations) :
    List.Forall₂ (LiesIn u output) (g.run commands).entries locations := by
  rw [map_path_reportFiles] at h
  exact liesIn_of_fileNames (fun e he => (Generator.isFileName_of_mem_entries hg he).2) h

/-- Files of different names lie at different locations. -/
theorem nodup_of_liesIn {entries : List (String × String)} (hn : (entries.map (·.2)).Nodup)
    (h : List.Forall₂ (LiesIn u output) entries locations) : locations.Nodup := by
  have hlast : locations.map (·.getLast?) = entries.map fun e => some e.2 := by
    refine map_eq_of_forall₂ h fun e l hl => ?_
    obtain ⟨directory, -, rfl⟩ := hl
    exact List.getLast?_concat
  have hnames := hn.map (Option.some_injective String)
  rw [List.map_map] at hnames
  exact List.Nodup.of_map (·.getLast?) (hlast ▸ hnames)

theorem nodup_locations (hg : Generator.ofConfig c = .ok g) (hn : (commands.map (·.name)).Nodup)
    (h : List.Forall₂ (LiesIn u output) (g.run commands).entries locations) : locations.Nodup :=
  nodup_of_liesIn (Generator.nodup_fileNames hg hn) h

/-! ## Generating -/

theorem generate_eq {files : FileTree} {source : String}
    (hload : Schema.load files source = .ok commands) (hg : Generator.ofConfig c = .ok g)
    (hwritten : writeFiles files (reportFiles (g.run commands) output) = (u, .ok ())) :
    (generate files source output c).files = u ∧
      ((generate files source output c).failure.isSome ↔ (g.run commands).failures ≠ []) := by
  simp only [generate, prepare, hload, hg, hwritten, true_and]
  by_cases h : (g.run commands).failures = [] <;> simp [Report.isSuccess, h]

/-- **Generating writes the report and nothing else.** When the schema loads and every file can be
written, each file of the report is read as it is reported; the files lie at different locations;
what is changed is one of them, under its name in the directory for a configured language, or a
directory that was missing; and the session fails exactly when a pair has failed. -/
theorem generate_writes_report {files : FileTree} {source : String}
    (hload : Schema.load files source = .ok commands) (hg : Generator.ofConfig c = .ok g)
    (hwritten : (writeFiles files (reportFiles (g.run commands) output)).2 = .ok ()) :
    let report := g.run commands
    let after := (generate files source output c).files
    (∀ a ∈ report.artifacts,
        after.readText (Path.join output (Path.join a.language a.fileName)) = .ok a.content) ∧
      (∀ s ∈ report.supportFiles,
        after.readText (Path.join output (Path.join s.language s.file.fileName)) =
          .ok s.file.content) ∧
      (∃ locations, List.Forall₂ after.LeadsTo ((reportFiles report output).map (·.1)) locations ∧
        locations.Nodup) ∧
      (∀ location, after.node? location ≠ files.node? location →
        (∃ language ∈ c.languages, ∃ name, Target.IsFileName language name ∧
          LiesIn after output (language, name) location) ∨
        files.node? location = none ∧ after.node? location = some .directory) ∧
      ((generate files source output c).failure.isSome ↔ report.failures ≠ []) := by
  obtain ⟨u, hu⟩ : ∃ u, writeFiles files (reportFiles (g.run commands) output) = (u, .ok ()) :=
    ⟨_, Prod.ext rfl hwritten⟩
  obtain ⟨hafter, hfailure⟩ := generate_eq hload hg hu
  obtain ⟨locations, hwrites, hleads, hread⟩ := writes_of_writeFiles hu
  have hlies := liesIn_of_leadsTo hg hleads
  have hn := nodup_locations hg (Schema.nodup_names_of_load hload) hlies
  simp only [hafter]
  refine ⟨fun a ha => ?_, fun s hs => ?_, ⟨locations, hleads, hn⟩, fun location hchanged => ?_,
    hfailure⟩
  · exact hread hn (_, _) (List.mem_append_left _ (List.mem_map_of_mem ha))
  · exact hread hn (_, _) (List.mem_append_right _ (List.mem_map_of_mem hs))
  · by_cases hl : location ∈ locations
    · obtain ⟨⟨language, name⟩, he, hlocation⟩ := exists_left_of_forall₂ hlies hl
      obtain ⟨hlanguage, -, hname⟩ := Generator.isFileName_of_mem_entries hg he
      exact .inl ⟨language, hlanguage, name, hname, hlocation⟩
    · exact .inr ((hwrites.elsewhere location hl).resolve_left hchanged)

theorem generate_writes_report_ping :
    let schema := "\x7b\"Ping\": \x7b\"id\": \"int\"\x7d\x7d"
    let files : FileTree := ⟨[(["ping.json"], .file (.text schema))], []⟩
    let c : Config := { languages := ["javascript"] }
    let after := (generate files "ping.json" "out" c).files
    ∃ commands g, Schema.load files "ping.json" = .ok commands ∧ Generator.ofConfig c = .ok g ∧
      (writeFiles files (reportFiles (g.run commands) "out")).2 = .ok () ∧
      (∀ a ∈ (g.run commands).artifacts,
        after.readText (Path.join "out" (Path.join a.language a.fileName)) = .ok a.content) ∧
      (∀ s ∈ (g.run commands).supportFiles,
        after.readText (Path.join "out" (Path.join s.language s.file.fileName)) =
          .ok s.file.content) ∧
      (∃ locations, List.Forall₂ after.LeadsTo
        ((reportFiles (g.run commands) "out").map (·.1)) locations ∧ locations.Nodup) ∧
      (∀ location, after.node? location ≠ files.node? location →
        (∃ language ∈ c.languages, ∃ name, Target.IsFileName language name ∧
          LiesIn after "out" (language, name) location) ∨
        files.node? location = none ∧ after.node? location = some .directory) ∧
      ((generate files "ping.json" "out" c).failure.isSome ↔ (g.run commands).failures ≠ []) := by
  intro schema files c after
  let d : CommandDef := ⟨"Ping", some "Ping command.", [⟨"id", .integer, none⟩]⟩
  let f : FieldModel := ⟨"id", "id", .integer, none⟩
  let text := sourceText (Target.javaScript.render ⟨"Ping", "ping", d.docs, [f]⟩
    [⟨f, ⟨.integer, false⟩, "id"⟩])
  let a : Artifact := ⟨"javascript", "Ping", "ping", "ping.js", ["id"], text⟩
  let g : Generator := c.languages.foldl (Generator.registerBuiltin c) (.mk [] .nil c.parallel)
  have hload : Schema.load files "ping.json" = .ok [d] := by decide +kernel
  have hg : Generator.ofConfig c = .ok g := by
    have hcheck : c.check = .ok () := by decide +kernel
    rw [Generator.ofConfig, hcheck]
  have hartifacts : Report.produced (Collision.reject (g.outcomes [d]) g.supportFiles) = [a] := by
    decide +kernel
  have hfiles : reportFiles (g.run [d]) "out" = (Path.join "out" a.path, a.content) ::
      g.supportFiles.map fun s => (Path.join "out" s.path, s.file.content) := by
    rw [reportFiles, Generator.run, Report.ofOutcomes, hartifacts, List.mergeSort_singleton]
    rfl
  have hwritten : (writeFiles files (reportFiles (g.run [d]) "out")).2 = .ok () := by
    rw [hfiles]
    decide +kernel
  exact ⟨[d], g, hload, hg, hwritten, generate_writes_report hload hg hwritten⟩

end Session

end CommandForge
