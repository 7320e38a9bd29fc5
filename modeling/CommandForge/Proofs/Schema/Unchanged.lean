import CommandForge.Proofs.Files.Made
import CommandForge.Proofs.Lists
import CommandForge.Proofs.Schema.Loaded
/-!
# Loading a schema again

Files that are written in between do not change what a source gives, as long as none of them is the
source itself or bears the name of a schema file (`load_eq_of_writes`). A directory then has the
same schema files: what is new in it is a file of another name, or a directory.
-/

namespace CommandForge

/-! ## Names in a directory -/

namespace FileTree

variable {t u : FileTree} {here l : List String} {ps qs : List (List Char)} {content : Content}
  {path name : String} {locations : List (List String)}

theorem Walks.append {place : Place} (h : Walks t here ps (.directory l))
    (hrest : Walks t l qs place) : Walks t here (ps ++ qs) place := by
  generalize hplace : Place.directory l = found at h
  induction h with
  | done =>
    obtain rfl := Place.directory.inj hplace
    exact hrest
  | stay hpiece _ ih => exact .stay hpiece (ih hplace)
  | up _ ih => exact .up (ih hplace)
  | down hpiece hnode _ ih => exact .down hpiece hnode (ih hplace)
  | file => contradiction
  | vacant => contradiction

/-- A name in a directory leads to a file when a file stands there. -/
theorem find_join_eq_file_iff (hfind : t.find path = .ok (.directory l))
    (hname : Path.IsEntryName name) {location : List String} :
    t.find (Path.join path name) = .ok (.file location content) ↔
      location = l ++ [name] ∧ t.node? (l ++ [name]) = some (.file content) := by
  obtain ⟨-, hwalk⟩ := find_eq_ok_iff.1 hfind
  have hrel := Path.isAbsolute_of_isEntryName hname
  have hpieces : Path.pieces (Path.join path name) = Path.pieces path ++ [name.toList] := by
    rw [Path.pieces_join hrel, Path.pieces_of_isEntryName hname]
  have hstart : t.start (Path.join path name) = t.start path := by
    rw [start, start, Path.isAbsolute_join hrel]
  have hentry : NamesEntry name.toList := ⟨hname.ne_nil, hname.ne_dot, hname.ne_dots⟩
  rw [find_eq_ok_iff, hpieces, hstart]
  constructor
  · rintro ⟨-, hfile⟩
    obtain ⟨directory, hto, hlast⟩ := hfile.of_append (by simp)
    have hsame : Place.directory directory = .directory l :=
      Except.ok.inj ((walk_of_walks hto).symm.trans (walk_of_walks hwalk))
    obtain rfl := Place.directory.inj hsame
    have hlocation := hlast.location_eq hentry rfl
    rw [String.ofList_toList] at hlocation
    exact ⟨hlocation, hlocation ▸ hlast.stands.1⟩
  · rintro ⟨rfl, hnode⟩
    refine ⟨Path.toList_join_ne_nil hname.ne_nil, hwalk.append ?_⟩
    have hlast : Walks t l [name.toList]
        (.file (l ++ [String.ofList name.toList]) content) :=
      .file hentry (by rwa [String.ofList_toList])
    rwa [String.ofList_toList] at hlast

theorem endsInSlash_join (hname : Path.IsEntryName name) :
    endsInSlash (Path.join path name) = false := by
  have hlast : (Path.join path name).toList.getLast? = name.toList.getLast? := by
    rcases Path.join_cases (Path.isAbsolute_of_isEntryName hname) with
      ⟨-, hjoin⟩ | ⟨front, -, -, hjoin⟩
    · rw [hjoin]
    · rw [hjoin, List.getLast?_append_cons, List.getLast?_cons_of_ne_nil hname.ne_nil]
  rw [endsInSlash, hlast]
  refine beq_eq_false_iff_ne.2 fun hslash => hname.slash_notMem ?_
  exact List.mem_of_getLast? hslash

theorem isFile_join_iff (hfind : t.find path = .ok (.directory l)) (hname : Path.IsEntryName name) :
    t.isFile (Path.join path name) ↔ ∃ content, t.node? (l ++ [name]) = some (.file content) := by
  unfold isFile
  constructor
  · intro h
    split at h
    · rename_i location content hfile
      exact ⟨content, ((find_join_eq_file_iff hfind hname).1 hfile).2⟩
    · contradiction
  · rintro ⟨content, hnode⟩
    rw [(find_join_eq_file_iff hfind hname).2 ⟨rfl, hnode⟩]
    simp [endsInSlash_join hname]

/-! ## Files that are not written -/

theorem Writes.node?_eq_file_iff (h : Writes locations t u) (hl : l ∉ locations) :
    u.node? l = some (.file content) ↔ t.node? l = some (.file content) := by
  refine ⟨fun hu => ?_, h.node?_file hl⟩
  rcases h.elsewhere l hl with he | ⟨-, hdir⟩
  · exact he ▸ hu
  · cases hdir.symm.trans hu

theorem Writes.find_file (h : Writes locations t u) (hl : l ∉ locations)
    (hfind : t.find path = .ok (.file l content)) : u.find path = .ok (.file l content) :=
  find_of_leadsTo (h.leadsTo ⟨content, hfind⟩)
    (h.node?_file hl (find_eq_ok_iff.1 hfind).2.stands.1)

theorem Writes.readText_eq (h : Writes locations t u) (hl : l ∉ locations)
    (hfind : t.find path = .ok (.file l content)) : u.readText path = t.readText path := by
  rw [readText, readText, hfind, h.find_file hl hfind]

end FileTree

namespace Schema

open FileTree (Writes Grows)

variable {t u : FileTree} {source : String} {directory : List String}
  {locations : List (List String)}

/-! ## Schema files of a directory -/

theorem pairwise_sortedTexts (texts : List String) : (sortedTexts texts).Pairwise (· ≤ ·) := by
  have hle : (sortedTexts texts).Pairwise fun a b => !decide (b < a) := by
    refine List.pairwise_mergeSort (fun a b c hab hbc => ?_) (fun a b => ?_) texts
    · simp only [Bool.not_eq_true', decide_eq_false_iff_not, String.not_lt] at *
      exact String.le_trans hab hbc
    · simp only [Bool.or_eq_true, Bool.not_eq_true', decide_eq_false_iff_not, String.not_lt]
      exact String.le_total a b
  simpa only [Bool.not_eq_true', decide_eq_false_iff_not, String.not_lt] using hle

/-- Texts in order are in the only order in which they can be. -/
theorem eq_sortedTexts {texts sorted : List String} (h : sorted.Perm texts)
    (hsorted : sorted.Pairwise (· ≤ ·)) : sorted = sortedTexts texts :=
  (h.trans (List.mergeSort_perm _ _).symm).eq_of_pairwise
    (fun _ _ _ _ hab hba => String.le_antisymm hab hba) hsorted (pairwise_sortedTexts texts)

theorem sortedTexts_filter (keep : String → Bool) (texts : List String) :
    (sortedTexts texts).filter keep = sortedTexts (texts.filter keep) :=
  eq_sortedTexts ((List.mergeSort_perm texts _).filter keep)
    ((pairwise_sortedTexts texts).filter keep)

/-- The schema files of a directory can be picked before they are put in order. -/
theorem filesIn_eq_map (t : FileTree) (source : String) : filesIn t source =
    (sortedTexts ((t.list source).filter fun name =>
      t.isFile (Path.join source name) && isSchemaName name)).map (Path.join source) := by
  rw [filesIn, List.filter_map, sortedTexts_filter, List.filter_filter]
  rfl

variable (hwrites : Writes locations t u) (hgrows : Grows t u)
  (hnamed : ∀ name ∈ t.list source, Path.IsEntryName name)
  (hnames : ∀ l ∈ locations, ∀ name ∈ l.getLast?, isSchemaName name = false)

include hnames

theorem notMem_of_isSchemaName {name : String} (h : isSchemaName name = true) :
    directory ++ [name] ∉ locations := by
  intro hl
  rw [hnames _ hl name (by simp)] at h
  contradiction

include hwrites hgrows hnamed

theorem filesIn_eq_of_writes (hfind : t.find source = .ok (.directory directory)) :
    filesIn u source = filesIn t source := by
  have hfind' : u.find source = .ok (.directory directory) :=
    hwrites.find_directory hfind (.inl rfl)
  obtain ⟨new, hlist, hnew⟩ := FileTree.namesIn_eq_of_grows hgrows directory
  have hlist' : u.list source = t.list source ++ new := by
    simp only [FileTree.list, hfind, hfind', hlist]
  have hold : ∀ name ∈ t.list source,
      (u.isFile (Path.join source name) && isSchemaName name) =
        (t.isFile (Path.join source name) && isSchemaName name) := by
    intro name hname
    have hentry := hnamed name hname
    cases hschema : isSchemaName name with
    | false => rw [Bool.and_false, Bool.and_false]
    | true =>
      have hl : directory ++ [name] ∉ locations := notMem_of_isSchemaName hnames hschema
      rw [Bool.and_true, Bool.and_true, Bool.eq_iff_iff, FileTree.isFile_join_iff hfind hentry,
        FileTree.isFile_join_iff hfind' hentry]
      exact exists_congr fun _ => hwrites.node?_eq_file_iff hl
  have hnone : (new.filter fun name =>
      u.isFile (Path.join source name) && isSchemaName name) = [] := by
    rw [List.filter_eq_nil_iff]
    intro name hname
    obtain ⟨hentry, hvacant⟩ := hnew name hname
    rw [Bool.and_eq_true, FileTree.isFile_join_iff hfind' hentry]
    rintro ⟨⟨content, hfile⟩, hschema⟩
    rw [hwrites.node?_eq_file_iff (notMem_of_isSchemaName hnames hschema), hvacant] at hfile
    contradiction
  rw [filesIn_eq_map, filesIn_eq_map, hlist', List.filter_append, hnone, List.append_nil,
    List.filter_congr hold]

theorem sourceFiles_of_directory (hfind : t.find source = .ok (.directory directory))
    {paths : List String} (hpaths : sourceFiles t source = .ok paths) :
    sourceFiles u source = .ok paths ∧ ∀ path ∈ paths, u.readText path = t.readText path := by
  have hfind' : u.find source = .ok (.directory directory) :=
    hwrites.find_directory hfind (.inl rfl)
  have hdir : t.isDirectory source = true := by rw [FileTree.isDirectory, hfind]
  have hdir' : u.isDirectory source = true := by rw [FileTree.isDirectory, hfind']
  rw [sourceFiles, if_pos hdir] at hpaths
  rw [sourceFiles, if_pos hdir', filesIn_eq_of_writes hwrites hgrows hnamed hnames hfind]
  refine ⟨hpaths, fun path hpath => ?_⟩
  obtain rfl : filesIn t source = paths := by
    split at hpaths
    · contradiction
    · exact Except.ok.inj hpaths
  rw [filesIn_eq_map] at hpath
  obtain ⟨name, hname, rfl⟩ := List.mem_map.1 hpath
  rw [sortedTexts, List.mem_mergeSort, List.mem_filter, Bool.and_eq_true] at hname
  obtain ⟨hlisted, hfile, hschema⟩ := hname
  have hentry := hnamed name hlisted
  obtain ⟨content, hnode⟩ := (FileTree.isFile_join_iff hfind hentry).1 hfile
  exact hwrites.readText_eq (notMem_of_isSchemaName hnames hschema)
    ((FileTree.find_join_eq_file_iff hfind hentry).2 ⟨rfl, hnode⟩)

/-! ## Loading -/

omit hwrites hgrows hnamed hnames in
theorem loadFiles_eq_of_readText {loaded : List CommandDef} {paths : List String}
    (h : ∀ path ∈ paths, u.readText path = t.readText path) :
    loadFiles u loaded paths = loadFiles t loaded paths := by
  induction paths generalizing loaded with
  | nil => rfl
  | cons path paths ih =>
    obtain ⟨hpath, hrest⟩ := List.forall_mem_cons.1 h
    have hfile : loadFile u path = loadFile t path := by rw [loadFile, loadFile, hpath]
    rw [loadFiles, loadFiles, hfile]
    split
    · rfl
    · split
      · rfl
      · exact ih hrest

omit hwrites hgrows hnamed hnames in
theorem exists_leadsTo_of_loadFile {path : String} {part : List CommandDef}
    (h : loadFile t path = .ok part) : ∃ location, t.LeadsTo path location := by
  obtain ⟨text, hread⟩ : ∃ text, t.readText path = .ok text := by
    unfold loadFile at h
    split at h
    · contradiction
    · exact ⟨_, ‹_›⟩
  unfold FileTree.readText at hread
  split at hread
  · contradiction
  · contradiction
  · contradiction
  · exact ⟨_, _, ‹_›⟩

/-- The source gives the same commands after files of other names were written, unless it is one of
these files. -/
theorem load_eq_of_writes (hsource : ∀ l ∈ locations, ¬ u.LeadsTo source l)
    {commands : List CommandDef} (hload : load t source = .ok commands) :
    load u source = .ok commands := by
  obtain ⟨paths, parts, hpaths, hparts, -, -⟩ := load_eq_ok hload
  have hsame : sourceFiles u source = .ok paths ∧
      ∀ path ∈ paths, u.readText path = t.readText path := by
    cases hdir : t.isDirectory source with
    | true =>
      unfold FileTree.isDirectory at hdir
      split at hdir
      · rename_i directory hfind
        exact sourceFiles_of_directory hwrites hgrows hnamed hnames hfind hpaths
      · contradiction
    | false =>
      -- The source is a file, since it could be read.
      obtain rfl : [source] = paths := by
        rw [sourceFiles, hdir] at hpaths
        exact Except.ok.inj hpaths
      obtain ⟨part, -, hpart⟩ := exists_right_of_forall₂ hparts List.mem_cons_self
      obtain ⟨location, content, hfind⟩ := exists_leadsTo_of_loadFile hpart
      have hl : location ∉ locations := fun hl =>
        hsource location hl (hwrites.leadsTo ⟨content, hfind⟩)
      have hdir' : u.isDirectory source = false := by
        rw [FileTree.isDirectory, hwrites.find_file hl hfind]
      refine ⟨by rw [sourceFiles, hdir']; rfl, ?_⟩
      rw [List.forall_mem_singleton]
      exact hwrites.readText_eq hl hfind
  rw [load, hpaths] at hload
  rw [load, hsame.1]
  exact (loadFiles_eq_of_readText hsame.2).trans hload

end Schema

end CommandForge
