import CommandForge.Proofs.Lists
import CommandForge.Proofs.Schema.Unchanged
import CommandForge.Proofs.Session.Generate
/-!
# Verifying what was blessed

Fixtures that are made to hold the artifacts hold them at the end, since no two lie at one location,
and the files of the schema are none of them. So the next session gives the same report and finds
every fixture as expected (`verify_after_bless`).
-/

namespace CommandForge

/-! ## Fixtures -/

namespace Fixture

variable {t : FileTree} {root : String}

/-- The fixture is a text, and but for blank space it is that of the artifact. -/
def Agrees (t : FileTree) (root : String) (a : Artifact) : Prop :=
  ∃ text, t.readText (path root a) = .ok text ∧ Text.canonical text = Text.canonical a.content

theorem diff?_eq_none_iff {a : Artifact} : diff? t root a = none ↔ Agrees t root a := by
  unfold diff? Agrees
  cases hread : t.readText (path root a) with
  | error e => simp
  | ok text => simp [difference?]

instance (t : FileTree) (root : String) : DecidablePred (Agrees t root) :=
  fun _ => decidable_of_iff _ diff?_eq_none_iff

/-- The mismatches are those of the artifacts whose fixtures do not agree, in the same order. -/
theorem map_mismatches (artifacts : List Artifact) :
    (mismatches t root artifacts).map (fun m => (m.command, m.language, m.path)) =
      (artifacts.filter fun a => ¬ Agrees t root a).map fun a =>
        (a.command, a.language, path root a) := by
  induction artifacts with
  | nil => rfl
  | cons a artifacts ih =>
    rw [mismatches] at ih ⊢
    cases hdiff : diff? t root a with
    | none =>
      have hagrees : Agrees t root a := diff?_eq_none_iff.1 hdiff
      rw [List.filterMap_cons, List.filter_cons_of_neg (by simpa using hagrees), mismatch?, hdiff]
      exact ih
    | some diff =>
      have hnot : ¬ Agrees t root a := by
        rw [← diff?_eq_none_iff, hdiff]
        simp
      rw [List.filterMap_cons, List.filter_cons_of_pos (by simpa using hnot), mismatch?, hdiff]
      exact congrArg _ ih

theorem mismatches_eq_nil_iff {artifacts : List Artifact} :
    mismatches t root artifacts = [] ↔ ∀ a ∈ artifacts, Agrees t root a := by
  rw [← List.map_eq_nil_iff (f := fun m : Mismatch => (m.command, m.language, m.path)),
    map_mismatches, List.map_eq_nil_iff, List.filter_eq_nil_iff]
  simp

end Fixture

/-- The name of a file of a built-in language is not that of a schema file. -/
theorem Target.IsFileName.isSchemaName_eq_false {language name : String}
    (hl : language ∈ builtinLanguages) (h : Target.IsFileName language name) :
    Schema.isSchemaName name = false := by
  have hjson : ∀ l ∈ builtinLanguages, (extension l).toList ≠ ['j', 's', 'o', 'n'] := by decide
  obtain ⟨stem, -, -, rfl⟩ := h
  have hdot : ∀ c ∈ (extension language).toList.reverse, decide (c ≠ '.') = true := by
    intro c hc
    rw [List.mem_reverse] at hc
    refine decide_eq_true fun heq => ?_
    exact (isName_extension hl).notMem (by decide) (heq ▸ hc)
  have htail : (stem ++ "." ++ extension language).toList.reverse.takeWhile (· ≠ '.') =
      (extension language).toList.reverse := by
    simp only [String.toList_append, List.reverse_append, List.append_assoc]
    rw [List.takeWhile_append_of_pos hdot]
    simp
  simp only [Schema.isSchemaName, Path.extension?, htail, List.reverse_reverse, beq_eq_false_iff_ne]
  split
  · simp
  · split
    · simpa using hjson language hl
    · simp

namespace Session

open FileTree (Writes Grows)

variable {t u v : FileTree} {files : List (String × String)} {location : List String}
  {path : String}

/-! ## What writing files changes -/

/-- Between the trees, writing under the path has put the file there, or a directory above it. -/
def PutFor (before after : FileTree) (path : String) (location : List String) : Prop :=
  after.LeadsTo path location ∨
    before.node? location = none ∧
      ∃ above, Path.IsAbove above path ∧ after.find above = .ok (.directory location)

theorem PutFor.mono {locations locations' : List (List String)} (h : PutFor u v path location)
    (hbefore : Writes locations t u) {w : FileTree} (hafter : Writes locations' v w) :
    PutFor t w path location := by
  rcases h with hleads | ⟨hnone, above, habove, hfind⟩
  · exact .inl (hafter.leadsTo hleads)
  · exact .inr ⟨hbefore.node?_eq_none hnone, above, habove,
      hafter.find_directory hfind (.inl rfl)⟩

theorem putFor_of_writeFile {content : String} (h : writeFile t path content = (u, .ok ()))
    (hl : u.node? location ≠ t.node? location) : PutFor t u path location := by
  obtain ⟨made, hmade, hwrite⟩ := writeFile_eq_ok h
  have habove := FileTree.makes_makeAbove t path
  rw [hmade] at habove
  obtain ⟨written, hwrites, hfind, -, hother⟩ := FileTree.writes_of_write hwrite
  by_cases hwritten : location = written
  · subst hwritten
    exact .inl ⟨_, hfind⟩
  · rw [hother location hwritten] at hl
    obtain ⟨above, hpath, hdir⟩ := habove.made location hl
    have hnone := ((habove.writes.elsewhere location (by simp)).resolve_left hl).1
    exact .inr ⟨hnone, above, hpath, hwrites.find_directory hdir (.inl rfl)⟩

/-- What writing files changes are these files and the directories above them. -/
theorem putFor_of_writeFiles (h : writeFiles t files = (u, .ok ()))
    (hl : u.node? location ≠ t.node? location) : ∃ f ∈ files, PutFor t u f.1 location := by
  induction files generalizing t with
  | nil =>
    obtain rfl : t = u := congrArg Prod.fst h
    exact absurd rfl hl
  | cons f files ih =>
    obtain ⟨written, hwrite, h⟩ := writeFiles_cons_eq_ok h
    obtain ⟨first, hfirst, -⟩ := writes_of_writeFile hwrite
    obtain ⟨rest, hrest, -⟩ := writes_of_writeFiles h
    by_cases hlater : u.node? location = written.node? location
    · rw [hlater] at hl
      exact ⟨f, List.mem_cons_self, (putFor_of_writeFile hwrite hl).mono (.refl t) hrest⟩
    · obtain ⟨f', hf', hput⟩ := ih h hlater
      exact ⟨f', List.mem_cons_of_mem f hf', hput.mono hfirst (.refl u)⟩

theorem grows_of_writeFiles (h : writeFiles t files = (u, .ok ())) : Grows t u := by
  induction files generalizing t with
  | nil =>
    obtain rfl : t = u := congrArg Prod.fst h
    exact .refl t
  | cons f files ih =>
    obtain ⟨written, hwrite, h⟩ := writeFiles_cons_eq_ok h
    obtain ⟨made, hmade, hwritten⟩ := writeFile_eq_ok hwrite
    have habove := (FileTree.makes_makeAbove t f.1).grows
    rw [hmade] at habove
    exact (habove.trans (FileTree.grows_of_write hwritten)).trans (ih h)

/-! ## Blessing -/

/-- The fixtures of artifacts with what they are to hold. -/
def fixtureFiles (expected : String) (artifacts : List Artifact) : List (String × String) :=
  artifacts.map fun a => (Fixture.path expected a, a.content)

theorem blessOne_eq_ok {expected : String} {a : Artifact}
    (h : Fixture.blessOne t expected a = (u, .ok ())) :
    ∃ made, t.makeAbove (Fixture.path expected a) = (made, .ok ()) ∧
      made.write (Fixture.path expected a) (.text a.content) = .ok u := by
  unfold Fixture.blessOne at h
  dsimp only at h
  split at h
  · cases h
  · rename_i made hmade
    split at h
    · cases h
    · rename_i written hwrite
      obtain rfl : written = u := congrArg Prod.fst h
      exact ⟨made, hmade, hwrite⟩

theorem writeFile_of_blessOne {expected : String} {a : Artifact}
    (h : Fixture.blessOne t expected a = (u, .ok ())) :
    writeFile t (Fixture.path expected a) a.content = (u, .ok ()) := by
  obtain ⟨made, hmade, hwrite⟩ := blessOne_eq_ok h
  simp only [writeFile, hmade, hwrite]

-- Without this the equation is found by running `blessOne` on texts that are not known.
attribute [local irreducible] Fixture.blessOne in
theorem bless_cons (files : FileTree) (root : String) (a : Artifact) (rest : List Artifact) :
    Fixture.bless files root (a :: rest) =
      match Fixture.blessOne files root a with
      | (files, .error e) => (files, .error e)
      | (files, .ok ()) => Fixture.bless files root rest := rfl

/-- Blessing writes the fixtures as files are written. -/
theorem writeFiles_of_bless {expected : String} {artifacts : List Artifact}
    (h : Fixture.bless t expected artifacts = (u, .ok ())) :
    writeFiles t (fixtureFiles expected artifacts) = (u, .ok ()) := by
  induction artifacts generalizing t with
  | nil =>
    obtain rfl : t = u := congrArg Prod.fst h
    rfl
  | cons a artifacts ih =>
    rw [bless_cons] at h
    split at h
    · cases h
    · rename_i written hwrite
      have hfirst := writeFile_of_blessOne hwrite
      have hrest := ih h
      have hcons : fixtureFiles expected (a :: artifacts) =
          (Fixture.path expected a, a.content) :: fixtureFiles expected artifacts := rfl
      simp only [hcons, writeFiles, hfirst, hrest]

/-! ## Verifying -/

variable {c : Config} {g : Generator} {commands : List CommandDef} {expected : String}

/-- Blessed fixtures lie where no schema file can be, and hold their artifacts. -/
theorem agrees_of_bless (hg : Generator.ofConfig c = .ok g) (hn : (commands.map (·.name)).Nodup)
    (h : Fixture.bless t expected (g.run commands).artifacts = (u, .ok ())) :
    (∀ a ∈ (g.run commands).artifacts, Fixture.Agrees u expected a) ∧
      ∃ locations, Writes locations t u ∧
        ∀ l ∈ locations, (∃ a ∈ (g.run commands).artifacts,
            u.LeadsTo (Fixture.path expected a) l) ∧
          ∀ name ∈ l.getLast?, Schema.isSchemaName name = false := by
  let entries := (g.run commands).artifacts.map fun a => (a.language, a.fileName)
  obtain ⟨locations, hwrites, hleads, hread⟩ := writes_of_writeFiles (writeFiles_of_bless h)
  have hnames : ∀ e ∈ entries, e.1 ∈ builtinLanguages ∧ Target.IsFileName e.1 e.2 := fun e he =>
    (Generator.isFileName_of_mem_entries hg (List.mem_append_left _ he)).2
  have hpaths : (fixtureFiles expected (g.run commands).artifacts).map (·.1) =
      entries.map fun e => Path.join expected (Path.join e.1 e.2) := by
    simp [fixtureFiles, entries, Fixture.path, Artifact.path, Function.comp_def]
  have hlies := liesIn_of_fileNames hnames (hpaths ▸ hleads)
  have hdistinct : (entries.map (·.2)).Nodup := by
    simpa [entries, Function.comp_def] using Generator.nodup_artifacts hg hn
  refine ⟨fun a ha => ?_, locations, hwrites, fun l hl => ⟨?_, ?_⟩⟩
  · have hmem : (Fixture.path expected a, a.content) ∈
        fixtureFiles expected (g.run commands).artifacts := List.mem_map_of_mem ha
    have hfixture := hread (nodup_of_liesIn hdistinct hlies) _ hmem
    exact ⟨a.content, hfixture, rfl⟩
  · obtain ⟨path, hpath, hlead⟩ := exists_left_of_forall₂ hleads hl
    simp only [fixtureFiles, List.map_map, List.mem_map, Function.comp_apply] at hpath
    obtain ⟨a, ha, rfl⟩ := hpath
    exact ⟨a, ha, hlead⟩
  · obtain ⟨e, he, directory, -, rfl⟩ := exists_left_of_forall₂ hlies hl
    obtain ⟨hlanguage, hname⟩ := hnames e he
    rw [List.getLast?_concat]
    rintro name ⟨⟩
    exact hname.isSchemaName_eq_false hlanguage

theorem verify_eq {files : FileTree} {source : String}
    (hload : Schema.load files source = .ok commands) (hg : Generator.ofConfig c = .ok g)
    (blessing : Bool) : verify files source expected c blessing =
      if !(g.run commands).isSuccess then
        ⟨files, [], (g.run commands).failures.map failureLine,
          some (.notGenerated (g.run commands).failures.length)⟩
      else if blessing then bless files expected (g.run commands)
      else compare files expected (g.run commands) := by
  simp only [verify, prepare, hload, hg]

theorem isSuccess_iff {r : Report} : r.isSuccess = true ↔ r.failures = [] := by
  rw [Report.isSuccess, List.isEmpty_iff]

theorem failure_compare_eq_none_iff {r : Report} : (compare t expected r).failure = none ↔
    Fixture.mismatches t expected r.artifacts = [] := by
  unfold compare
  split
  · rename_i hnil
    simp [hnil]
  · rename_i hne
    simpa using hne

theorem failure_bless_eq_none_iff {r : Report} : (bless t expected r).failure = none ↔
    (Fixture.bless t expected r.artifacts).2 = .ok () := by
  unfold bless
  split
  · rename_i hbless
    simp [hbless]
  · rename_i hbless
    simp [hbless]

theorem files_bless {r : Report} :
    (bless t expected r).files = (Fixture.bless t expected r.artifacts).1 := by
  unfold bless
  split
  · rename_i hbless
    rw [hbless]
  · rename_i hbless
    rw [hbless]

/-- **Blessing and verifying agree.** When a pair fails, nothing is written and the session fails.
When fixtures are blessed, only they and the directories above them are changed, and verifying them
afterwards succeeds, unless the schema is one of them (what a directory lists as names has to be
names). The mismatches of any report are those of the artifacts whose fixtures do not agree, and
there are none exactly when the comparison succeeds. -/
theorem verify_after_bless {files : FileTree} {source : String}
    (hload : Schema.load files source = .ok commands) (hg : Generator.ofConfig c = .ok g) :
    let report := g.run commands
    let blessed := verify files source expected c true
    (report.failures ≠ [] → ∀ blessing,
        (verify files source expected c blessing).failure.isSome ∧
          (verify files source expected c blessing).files = files) ∧
      (report.failures = [] → blessed.failure = none →
        (∀ location, blessed.files.node? location ≠ files.node? location →
          ∃ a ∈ report.artifacts, PutFor files blessed.files (Fixture.path expected a) location) ∧
        ((∀ name ∈ files.list source, Path.IsEntryName name) →
          (∀ a ∈ report.artifacts, ∀ location,
            blessed.files.LeadsTo (Fixture.path expected a) location →
              ¬ blessed.files.LeadsTo source location) →
          (verify blessed.files source expected c false).failure = none)) ∧
      ∀ (t : FileTree) (root : String) (r : Report),
        (Fixture.mismatches t root r.artifacts).map (fun m => (m.command, m.language, m.path)) =
            ((r.artifacts.filter fun a => ¬ Fixture.Agrees t root a).map fun a =>
              (a.command, a.language, Fixture.path root a)) ∧
          ((compare t root r).failure = none ↔ Fixture.mismatches t root r.artifacts = []) := by
  intro report blessed
  refine ⟨fun hfailed blessing => ?_, fun hsuccess hblessed => ?_, fun t root r =>
    ⟨Fixture.map_mismatches r.artifacts, failure_compare_eq_none_iff⟩⟩
  · have hnot : report.isSuccess = false :=
      Bool.eq_false_iff.2 fun h => hfailed (isSuccess_iff.1 h)
    rw [verify_eq hload hg, hnot]
    exact ⟨rfl, rfl⟩
  · have hok : report.isSuccess = true := isSuccess_iff.2 hsuccess
    have heq : blessed = bless files expected report := by
      simp only [blessed, verify_eq hload hg]
      rw [hok]
      rfl
    rw [heq] at hblessed ⊢
    have hbless : Fixture.bless files expected report.artifacts =
        ((bless files expected report).files, .ok ()) :=
      Prod.ext files_bless.symm (failure_bless_eq_none_iff.1 hblessed)
    have hwritten := writeFiles_of_bless hbless
    obtain ⟨hagree, locations, hwrites, hfixtures⟩ :=
      agrees_of_bless hg (Schema.nodup_names_of_load hload) hbless
    refine ⟨fun location hchanged => ?_, fun hnamed hsource => ?_⟩
    · obtain ⟨f, hf, hput⟩ := putFor_of_writeFiles hwritten hchanged
      obtain ⟨a, ha, rfl⟩ := List.mem_map.1 hf
      exact ⟨a, ha, hput⟩
    · -- The schema is read as before, so the report is the same.
      have hagain : Schema.load (bless files expected report).files source = .ok commands := by
        refine Schema.load_eq_of_writes hwrites (grows_of_writeFiles hwritten) hnamed
          (fun l hl => (hfixtures l hl).2) (fun l hl => ?_) hload
        obtain ⟨a, ha, hleads⟩ := (hfixtures l hl).1
        exact hsource a ha l hleads
      rw [verify_eq hagain hg, hok]
      exact failure_compare_eq_none_iff.2 (Fixture.mismatches_eq_nil_iff.2 hagree)

theorem verify_after_bless_ping :
    let schema := "\x7b\"Ping\": \x7b\"id\": \"int\"\x7d\x7d"
    let files : FileTree := ⟨[(["ping.json"], .file (.text schema))], []⟩
    let c : Config := { languages := ["javascript"] }
    let blessed := verify files "ping.json" "expected" c true
    ∃ commands g, Schema.load files "ping.json" = .ok commands ∧ Generator.ofConfig c = .ok g ∧
      (g.run commands).failures = [] ∧ blessed.failure = none ∧
      (∀ name ∈ files.list "ping.json", Path.IsEntryName name) ∧
      (∀ a ∈ (g.run commands).artifacts, ∀ location,
        blessed.files.LeadsTo (Fixture.path "expected" a) location →
          ¬ blessed.files.LeadsTo "ping.json" location) ∧
      (∀ location, blessed.files.node? location ≠ files.node? location →
        ∃ a ∈ (g.run commands).artifacts,
          PutFor files blessed.files (Fixture.path "expected" a) location) ∧
      (verify blessed.files "ping.json" "expected" c false).failure = none := by
  intro schema files c blessed
  let d : CommandDef := ⟨"Ping", some "Ping command.", [⟨"id", .integer, none⟩]⟩
  let f : FieldModel := ⟨"id", "id", .integer, none⟩
  let text := sourceText (Target.javaScript.render ⟨"Ping", "ping", d.docs, [f]⟩
    [⟨f, ⟨.integer, false⟩, "id"⟩])
  let a : Artifact := ⟨"javascript", "Ping", "ping", "ping.js", ["id"], text⟩
  let g : Generator := c.languages.foldl (Generator.registerBuiltin c) (.mk [] .nil c.parallel)
  have hload : Schema.load files "ping.json" = .ok [d] := by decide +kernel
  have hg : Generator.ofConfig c = .ok g := by
    have hcheck : c.check = .ok () := by decide +kernel
    rw [Generator.ofConfig, hcheck]
  have houtcomes : Collision.reject (g.outcomes [d]) g.supportFiles = [.ok a] := by decide +kernel
  have hartifacts : (g.run [d]).artifacts = [a] := by
    rw [Generator.run, Report.ofOutcomes, houtcomes]
    exact List.mergeSort_singleton a
  have hfailures : (g.run [d]).failures = [] := by
    rw [Generator.run, Report.ofOutcomes, houtcomes]
    exact List.mergeSort_nil
  have hblessed : blessed.failure = none := by
    have hbless : (Fixture.bless files "expected" [a]).2 = .ok () := by decide +kernel
    have hverify : blessed = bless files "expected" (g.run [d]) := by
      simp only [blessed, verify_eq hload hg, isSuccess_iff.2 hfailures]
      rfl
    rw [hverify, failure_bless_eq_none_iff, hartifacts]
    exact hbless
  have hnamed : ∀ name ∈ files.list "ping.json", Path.IsEntryName name := by decide +kernel
  have hsource : ∀ a ∈ (g.run [d]).artifacts, ∀ location,
      blessed.files.LeadsTo (Fixture.path "expected" a) location →
        ¬ blessed.files.LeadsTo "ping.json" location := by
    rw [hartifacts, List.forall_mem_singleton]
    rintro location hfixture ⟨content, hfind⟩
    have hlanguage : Path.IsEntryName "javascript" := by decide
    have hname : Path.IsEntryName "ping.js" := by decide
    obtain ⟨directory, -, rfl⟩ := FileTree.directory_of_leadsTo hlanguage hname hfixture
    have hwalk := (FileTree.find_eq_ok_iff.1 hfind).2
    rw [Path.pieces_of_isEntryName (by decide)] at hwalk
    have hlast := congrArg List.getLast?
      (hwalk.location_eq ⟨by decide, by decide, by decide⟩ rfl)
    rw [List.getLast?_concat, List.getLast?_concat, String.ofList_toList] at hlast
    exact absurd (Option.some.inj hlast) (by decide)
  obtain ⟨hchanged, hagain⟩ := (verify_after_bless hload hg).2.1 hfailures hblessed
  exact ⟨[d], g, hload, hg, hfailures, hblessed, hnamed, hsource, hchanged, hagain hnamed hsource⟩

end Session

end CommandForge
