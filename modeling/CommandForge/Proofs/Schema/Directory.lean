import Mathlib.Data.List.Find
import CommandForge.Proofs.Files.Relisted
import CommandForge.Proofs.Lists
import CommandForge.Proofs.Schema.Unchanged
import CommandForge.Proofs.Text.Utf8Order
/-!
# Loading a directory

What a directory gives is decided by its schema files in the byte order of their names
(`IsListing`), in whatever order it lists them. The files are gone through with the commands at hand
that were loaded so far: a file adds its commands (`loadFiles_cons_of_reads`), or ends the run with
what is wrong with it behind these commands (`loadFiles_cons_of_offends`). So the run ends with the
commands of all files, or with the fault of the first file that has one (`FirstOffends`).
-/

namespace CommandForge.Schema

open FileTree (Relisted)

variable {t u : FileTree} {source path : String} {earlier loaded part : List CommandDef}

/-! ## Files -/

/-- The file can be read and is a schema of these commands. -/
def Reads (t : FileTree) (path : String) (part : List CommandDef) : Prop :=
  ∃ text, t.readText path = .ok text ∧ parse text = .ok part

/-- No command of the one list has the name of one of the other. -/
def Apart (ds ds' : List CommandDef) : Prop := ∀ d ∈ ds, ∀ d' ∈ ds', d.name ≠ d'.name

/-- What is wrong with a file behind the commands `earlier`. A command that is repeated is the first
in the file that is. -/
inductive FileOffends (t : FileTree) (earlier : List CommandDef) (path : String) : LoadFault → Prop
  | unreadable {e : OsError} (h : t.readText path = .error e) :
      FileOffends t earlier path (.unreadable path e)
  | malformed {text : String} {e : SchemaFault} (h : t.readText path = .ok text)
      (hparse : parse text = .error e) : FileOffends t earlier path (.malformed path e)
  | repeated {front back : List CommandDef} {d : CommandDef}
      (h : Reads t path (front ++ d :: back)) (hfront : Apart earlier front)
      (hd : d.name ∈ earlier.map (·.name)) : FileOffends t earlier path (.repeated d.name path)

/-- The fault is that of the first file that has one. All files before it are read, and no command
is in two of them. -/
def FirstOffends (t : FileTree) (loaded : List CommandDef) (paths : List String) (e : LoadFault) :
    Prop :=
  ∃ before path after parts, paths = before ++ path :: after ∧
    List.Forall₂ (Reads t) before parts ∧ (loaded :: parts).Pairwise Apart ∧
    FileOffends t (loaded ++ parts.flatten) path e

theorem loadFile_eq_ok_iff : loadFile t path = .ok part ↔ Reads t path part := by
  unfold loadFile Reads
  cases t.readText path with
  | error e => simp
  | ok text => cases hparse : parse text <;> simp [hparse]

/-- The commands of a file have different names. -/
theorem Reads.nodup_names (h : Reads t path part) : (part.map (·.name)).Nodup := by
  obtain ⟨written, -, hgives⟩ := loadFile_eq_ok (loadFile_eq_ok_iff.2 h)
  rw [map_eq_of_forall₂ hgives fun _ _ hd => (command_eq_ok hd).1]
  exact Json.nodup_keys_ofWritten _

theorem repeated?_eq_find? {seen : List String} {ds : List CommandDef}
    (hn : (ds.map (·.name)).Nodup) :
    repeated? seen ds = (ds.find? fun d => seen.contains d.name).map (·.name) := by
  induction ds generalizing seen with
  | nil => rfl
  | cons d ds ih =>
    rw [List.map_cons, List.nodup_cons] at hn
    rw [repeated?, List.find?_cons]
    cases hd : seen.contains d.name with
    | true => rfl
    | false =>
      -- The name that is put aside is that of no command behind it.
      have hsame : ∀ d' ∈ ds, (seen ++ [d.name]).contains d'.name = seen.contains d'.name := by
        intro d' hd'
        have hne : d'.name ≠ d.name := fun he => hn.1 (he ▸ List.mem_map_of_mem hd')
        simp [hne]
      rw [← List.find?_congr hsame, ← ih hn.2]
      rfl

theorem Apart.notMem {front : List CommandDef} (h : Apart earlier front) {d : CommandDef}
    (hd : d ∈ front) : d.name ∉ earlier.map (·.name) := by
  intro hm
  obtain ⟨d', hd', he⟩ := List.mem_map.1 hm
  exact h d' hd' d hd he

theorem apart_iff {ds : List CommandDef} :
    Apart earlier ds ↔ ∀ d ∈ ds, d.name ∉ earlier.map (·.name) :=
  ⟨fun h _ hd => h.notMem hd, fun h _ hd d' hd' he =>
    h d' hd' (he ▸ List.mem_map_of_mem hd)⟩

/-! ## Steps -/

theorem loadFiles_cons_of_reads (h : Reads t path part) (hapart : Apart loaded part)
    (paths : List String) :
    loadFiles t loaded (path :: paths) = loadFiles t (loaded ++ part) paths := by
  have hnone : repeated? (loaded.map (·.name)) part = none :=
    repeated?_eq_none_iff.2 ⟨apart_iff.1 hapart, h.nodup_names⟩
  simp only [loadFiles, loadFile_eq_ok_iff.2 h, hnone]

theorem loadFiles_cons_of_offends {e : LoadFault} (h : FileOffends t loaded path e)
    (paths : List String) : loadFiles t loaded (path :: paths) = .error e := by
  cases h with
  | unreadable h => simp only [loadFiles, loadFile, h]
  | malformed h hparse => simp only [loadFiles, loadFile, h, hparse]
  | @repeated front back d h hfront hd =>
    have hfind : (front ++ d :: back).find? (fun d => (loaded.map (·.name)).contains d.name) =
        some d := by
      refine List.find?_eq_some_iff_append.2 ⟨by simpa using hd, front, back, rfl, ?_⟩
      intro d' hd'
      simpa using hfront.notMem hd'
    have hsome : repeated? (loaded.map (·.name)) (front ++ d :: back) = some d.name := by
      rw [repeated?_eq_find? h.nodup_names, hfind, Option.map_some]
    simp only [loadFiles, loadFile_eq_ok_iff.2 h, hsome]

/-- A file adds its commands, or something is wrong with it. -/
theorem reads_or_offends (t : FileTree) (loaded : List CommandDef) (path : String) :
    (∃ part, Reads t path part ∧ Apart loaded part) ∨ ∃ e, FileOffends t loaded path e := by
  cases htext : t.readText path with
  | error e => exact .inr ⟨_, .unreadable htext⟩
  | ok text =>
    cases hparse : parse text with
    | error e => exact .inr ⟨_, .malformed htext hparse⟩
    | ok part =>
      have hreads : Reads t path part := ⟨text, htext, hparse⟩
      cases hfind : part.find? fun d => (loaded.map (·.name)).contains d.name with
      | none =>
        refine .inl ⟨part, hreads, apart_iff.2 fun d hd => ?_⟩
        simpa using List.find?_eq_none.1 hfind d hd
      | some d =>
        obtain ⟨hd, front, back, rfl, hfront⟩ := List.find?_eq_some_iff_append.1 hfind
        refine .inr ⟨_, .repeated hreads (apart_iff.2 fun d' hd' => ?_) (by simpa using hd)⟩
        simpa using hfront d' hd'

/-! ## Runs -/

theorem apart_append_iff {ds : List CommandDef} :
    Apart (loaded ++ part) ds ↔ Apart loaded ds ∧ Apart part ds :=
  List.forall_mem_append

/-- What is loaded stands apart from all files that follow exactly when it and the next file do. -/
theorem pairwise_apart_cons_cons_iff {parts : List (List CommandDef)} :
    (loaded :: part :: parts).Pairwise Apart ↔
      Apart loaded part ∧ ((loaded ++ part) :: parts).Pairwise Apart := by
  simp only [List.pairwise_cons, List.forall_mem_cons, apart_append_iff, forall_and]
  tauto

/-- All that going through files can come to. -/
theorem loadFiles_cases (t : FileTree) (loaded : List CommandDef) (paths : List String) :
    (∃ parts, List.Forall₂ (Reads t) paths parts ∧ (loaded :: parts).Pairwise Apart) ∨
      ∃ e, FirstOffends t loaded paths e := by
  induction paths generalizing loaded with
  | nil => exact .inl ⟨[], .nil, by simp⟩
  | cons path paths ih =>
    rcases reads_or_offends t loaded path with ⟨part, hreads, hapart⟩ | ⟨e, he⟩
    · rcases ih (loaded ++ part) with ⟨parts, hparts, hall⟩ |
        ⟨e, before, path', after, parts, rfl, hparts, hall, he⟩
      · exact .inl ⟨part :: parts, .cons hreads hparts,
          pairwise_apart_cons_cons_iff.2 ⟨hapart, hall⟩⟩
      · exact .inr ⟨e, path :: before, path', after, part :: parts, rfl, .cons hreads hparts,
          pairwise_apart_cons_cons_iff.2 ⟨hapart, hall⟩, by simpa using he⟩
    · exact .inr ⟨e, [], path, paths, [], rfl, .nil, by simp, by simpa using he⟩

/-- Files that can be read and have commands of their own are gone through to the end. -/
theorem loadFiles_append {before : List String} {parts : List (List CommandDef)}
    (h : List.Forall₂ (Reads t) before parts) (hapart : (loaded :: parts).Pairwise Apart)
    (paths : List String) :
    loadFiles t loaded (before ++ paths) = loadFiles t (loaded ++ parts.flatten) paths := by
  induction h generalizing loaded with
  | nil => simp
  | cons hreads _ ih =>
    obtain ⟨hfirst, hrest⟩ := pairwise_apart_cons_cons_iff.1 hapart
    rw [List.cons_append, loadFiles_cons_of_reads hreads hfirst, ih hrest, List.flatten_cons,
      List.append_assoc]

theorem loadFiles_eq_ok_of_reads {paths : List String} {parts : List (List CommandDef)}
    (h : List.Forall₂ (Reads t) paths parts) (hapart : (loaded :: parts).Pairwise Apart) :
    loadFiles t loaded paths = .ok (loaded ++ parts.flatten) := by
  have hall := loadFiles_append h hapart []
  rwa [List.append_nil, loadFiles] at hall

theorem loadFiles_eq_error_of_offends {paths : List String} {e : LoadFault}
    (h : FirstOffends t loaded paths e) : loadFiles t loaded paths = .error e := by
  obtain ⟨before, path, after, parts, rfl, hparts, hapart, he⟩ := h
  rw [loadFiles_append hparts hapart, loadFiles_cons_of_offends he]

theorem loadFiles_eq_ok_iff {paths : List String} {ds : List CommandDef} :
    loadFiles t loaded paths = .ok ds ↔ ∃ parts, List.Forall₂ (Reads t) paths parts ∧
      (loaded :: parts).Pairwise Apart ∧ ds = loaded ++ parts.flatten := by
  constructor
  · intro h
    rcases loadFiles_cases t loaded paths with ⟨parts, hparts, hapart⟩ | ⟨e, he⟩
    · have hok := loadFiles_eq_ok_of_reads hparts hapart
      exact ⟨parts, hparts, hapart, Except.ok.inj (h.symm.trans hok)⟩
    · cases h.symm.trans (loadFiles_eq_error_of_offends he)
  · rintro ⟨parts, hparts, hapart, rfl⟩
    exact loadFiles_eq_ok_of_reads hparts hapart

theorem loadFiles_eq_error_iff {paths : List String} {e : LoadFault} :
    loadFiles t loaded paths = .error e ↔ FirstOffends t loaded paths e := by
  refine ⟨fun h => ?_, loadFiles_eq_error_of_offends⟩
  rcases loadFiles_cases t loaded paths with ⟨parts, hparts, hapart⟩ | ⟨e', he'⟩
  · cases h.symm.trans (loadFiles_eq_ok_of_reads hparts hapart)
  · obtain rfl := Except.error.inj (h.symm.trans (loadFiles_eq_error_of_offends he'))
    exact he'

/-! ## Directories -/

/-- The name is that of a schema file in the directory. -/
def IsSchemaFile (t : FileTree) (source name : String) : Prop :=
  name ∈ t.list source ∧ isSchemaName name = true ∧ t.isFile (Path.join source name) = true

instance (t : FileTree) (source name : String) : Decidable (IsSchemaFile t source name) :=
  inferInstanceAs (Decidable (_ ∧ _ ∧ _))

/-- The names are those of the schema files in the directory, in the order of their bytes. -/
structure IsListing (t : FileTree) (source : String) (names : List String) : Prop where
  mem_iff : ∀ name, name ∈ names ↔ IsSchemaFile t source name
  sorted : names.Pairwise fun a b => Text.utf8 a < Text.utf8 b

/-- The schema files of a directory, in the order of their names. -/
def schemaNames (t : FileTree) (source : String) : List String :=
  sortedTexts ((t.list source).filter fun name =>
    t.isFile (Path.join source name) && isSchemaName name)

theorem filesIn_eq (t : FileTree) (source : String) :
    filesIn t source = (schemaNames t source).map (Path.join source) :=
  filesIn_eq_map t source

section Directory

variable (hlisted : t.listed.Nodup)

include hlisted

theorem isListing_schemaNames (source : String) : IsListing t source (schemaNames t source) := by
  constructor
  · intro name
    rw [schemaNames, sortedTexts, List.mem_mergeSort, List.mem_filter, Bool.and_eq_true,
      IsSchemaFile, and_comm (a := t.isFile _ = true)]
  · have hnodup : (schemaNames t source).Nodup :=
      (List.mergeSort_perm _ _).nodup_iff.2 ((FileTree.nodup_list hlisted source).filter _)
    refine ((pairwise_sortedTexts _).and hnodup).imp fun h => ?_
    rw [Text.utf8_lt_iff]
    exact lt_of_le_of_ne h.1 h.2

theorem schemaNames_eq (h : Relisted t u) (source : String) :
    schemaNames u source = schemaNames t source := by
  have hkeep : (fun name => u.isFile (Path.join source name) && isSchemaName name) =
      fun name => t.isFile (Path.join source name) && isSchemaName name :=
    funext fun name => by rw [h.isFile_eq hlisted]
  rw [schemaNames, schemaNames, hkeep]
  have hperm := (h.list_perm hlisted source).filter fun name =>
    t.isFile (Path.join source name) && isSchemaName name
  exact (eq_sortedTexts ((List.mergeSort_perm _ _).trans hperm) (pairwise_sortedTexts _)).symm

theorem load_eq_of_relisted (h : Relisted t u) (source : String) :
    load u source = load t source := by
  have hfiles : filesIn u source = filesIn t source := by
    rw [filesIn_eq, filesIn_eq, schemaNames_eq hlisted h]
  have hsources : sourceFiles u source = sourceFiles t source := by
    rw [sourceFiles, sourceFiles, h.isDirectory_eq hlisted, hfiles]
  rw [load, load, hsources]
  cases sourceFiles t source with
  | error e => rfl
  | ok paths => exact loadFiles_eq_of_readText fun path _ => h.readText_eq hlisted path

/-- **Loading a directory does not depend on the order in which it is listed.** The directory gives
the commands of its schema files in the byte order of their names, when all of them are read and no
command is in two of them; otherwise the fault of the first file in this order that cannot be read,
is no schema or repeats a command of a file before it. -/
theorem load_directory (hdirectory : t.isDirectory source = true)
    (hsome : ∃ name, IsSchemaFile t source name) :
    (∀ u, Relisted t u → load u source = load t source) ∧
      ∃ names, IsListing t source names ∧
        (∀ ds, load t source = .ok ds ↔
          ∃ parts, List.Forall₂ (Reads t) (names.map (Path.join source)) parts ∧
            parts.Pairwise Apart ∧ ds = parts.flatten) ∧
        ∀ e, load t source = .error e ↔
          FirstOffends t [] (names.map (Path.join source)) e := by
  have hlisting := isListing_schemaNames hlisted source
  have hsources : sourceFiles t source =
      .ok ((schemaNames t source).map (Path.join source)) := by
    obtain ⟨name, hname⟩ := hsome
    have hne : schemaNames t source ≠ [] := List.ne_nil_of_mem ((hlisting.mem_iff name).2 hname)
    rw [sourceFiles, if_pos hdirectory, filesIn_eq]
    cases hnames : schemaNames t source with
    | nil => exact absurd hnames hne
    | cons name names => rfl
  refine ⟨fun u h => load_eq_of_relisted hlisted h source, _, hlisting, fun ds => ?_, fun e => ?_⟩
  · simp [load, hsources, loadFiles_eq_ok_iff, Apart]
  · rw [load, hsources]
    exact loadFiles_eq_error_iff

end Directory

/-- Two schema files with a command in common, listed in either order. The fault is that of the
second file by name, at its second command. -/
theorem load_directory_repeated :
    let first := "\x7b\"Ping\": \x7b\x7d\x7d"
    let second := "\x7b\"Pong\": \x7b\x7d, \"Ping\": \x7b\x7d\x7d"
    let t : FileTree := ⟨[(["schema"], .directory), (["schema", "b.json"], .file (.text second)),
      (["schema", "notes.txt"], .file (.text "")), (["schema", "a.json"], .file (.text first))], []⟩
    let u : FileTree := ⟨t.entries.reverse, []⟩
    t.listed.Nodup ∧ t.isDirectory "schema" = true ∧ (∃ name, IsSchemaFile t "schema" name) ∧
      Relisted t u ∧ load t "schema" = .error (.repeated "Ping" "schema/b.json") ∧
      load u "schema" = load t "schema" ∧
      ∃ names, IsListing t "schema" names ∧
        (∀ ds, load t "schema" = .ok ds ↔
          ∃ parts, List.Forall₂ (Reads t) (names.map (Path.join "schema")) parts ∧
            parts.Pairwise Apart ∧ ds = parts.flatten) ∧
        ∀ e, load t "schema" = .error e ↔
          FirstOffends t [] (names.map (Path.join "schema")) e := by
  intro first second t u
  have hlisted : t.listed.Nodup := by decide
  have hdirectory : t.isDirectory "schema" = true := by decide +kernel
  have hsome : ∃ name, IsSchemaFile t "schema" name := ⟨"b.json", by decide +kernel⟩
  have hrelisted : Relisted t u := ⟨(List.reverse_perm _).symm, rfl⟩
  have hfilter : ((t.list "schema").filter fun name =>
      t.isFile (Path.join "schema" name) && isSchemaName name) = ["b.json", "a.json"] := by
    decide +kernel
  have hnames : schemaNames t "schema" = ["a.json", "b.json"] := by
    rw [schemaNames, hfilter]
    exact (eq_sortedTexts (.swap _ _ _) (by decide +kernel)).symm
  have hload : load t "schema" = .error (.repeated "Ping" "schema/b.json") := by
    rw [load, sourceFiles, if_pos hdirectory, filesIn_eq, hnames]
    decide +kernel
  obtain ⟨hsame, hfiles⟩ := load_directory hlisted hdirectory hsome
  exact ⟨hlisted, hdirectory, hsome, hrelisted, hload, hsame u hrelisted, hfiles⟩

end CommandForge.Schema
