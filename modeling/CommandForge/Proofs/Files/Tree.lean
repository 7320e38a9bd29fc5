import CommandForge.Files.Tree
import CommandForge.Proofs.Files.Path
/-!
# What writing leaves as it was

Every operation on a file tree writes some files and besides at most makes directories where there
was nothing (`Writes`). So a path that leads somewhere goes on leading there: what was a directory
stays one, and what was a file stays one, if perhaps with another content. A file that is written
is found under its path afterwards (`writes_of_write`).
-/

namespace CommandForge.FileTree

variable {t u v : FileTree} {here location l : List String} {ps : List (List Char)}
  {content : Content} {path : String}

/-! ## Nodes -/

theorem lookup_putEntry (location : List String) (node : FileNode)
    (entries : List (List String × FileNode)) :
    (putEntry location node entries).lookup l =
      if l = location then some node else entries.lookup l := by
  induction entries with
  | nil =>
    by_cases h : l = location
    · simp [putEntry, h]
    · simp [putEntry, List.lookup_cons, h, beq_eq_false_iff_ne.2 h]
  | cons e entries ih =>
    obtain ⟨k, n⟩ := e
    by_cases hk : k = location
    · subst hk
      by_cases h : l = k
      · simp [putEntry, h]
      · simp [putEntry, List.lookup_cons, h, beq_eq_false_iff_ne.2 h]
    · rw [putEntry, if_neg hk, List.lookup_cons, ih, List.lookup_cons]
      by_cases h : l = k
      · subst h
        simp [hk]
      · simp [beq_eq_false_iff_ne.2 h]

theorem node?_put (h : location ≠ []) (node : FileNode) :
    (t.put location node).node? l = if l = location then some node else t.node? l := by
  cases l with
  | nil => rw [if_neg (Ne.symm h)]; rfl
  | cons a l => exact lookup_putEntry location node t.entries

/-! ## Walking -/

/-- The piece names an entry of the directory in which it is looked up. -/
def NamesEntry (piece : List Char) : Prop := piece ≠ [] ∧ piece ≠ ['.'] ∧ piece ≠ ['.', '.']

/-- Where pieces lead from the directory `here`, if they lead anywhere. -/
inductive Walks (t : FileTree) : List String → List (List Char) → Place → Prop
  | done (here : List String) : Walks t here [] (.directory here)
  | stay {here rest piece place} (hpiece : piece = [] ∨ piece = ['.'])
      (hrest : Walks t here rest place) : Walks t here (piece :: rest) place
  | up {here rest place} (hrest : Walks t here.dropLast rest place) :
      Walks t here (['.', '.'] :: rest) place
  | down {here rest piece place} (hpiece : NamesEntry piece)
      (hnode : t.node? (here ++ [String.ofList piece]) = some .directory)
      (hrest : Walks t (here ++ [String.ofList piece]) rest place) :
      Walks t here (piece :: rest) place
  | file {here piece content} (hpiece : NamesEntry piece)
      (hnode : t.node? (here ++ [String.ofList piece]) = some (.file content)) :
      Walks t here [piece] (.file (here ++ [String.ofList piece]) content)
  | vacant {here piece} (hpiece : NamesEntry piece)
      (hnode : t.node? (here ++ [String.ofList piece]) = none) :
      Walks t here [piece] (.vacant (here ++ [String.ofList piece]))

theorem walks_of_walk {place : Place} (h : t.walk here ps = .ok place) : Walks t here ps place := by
  fun_induction walk t here ps with
  | case1 here =>
    obtain rfl := Except.ok.inj h
    exact .done here
  | case2 here rest ih => exact .stay (.inl rfl) (ih h)
  | case3 here rest ih => exact .stay (.inr rfl) (ih h)
  | case4 here rest ih => exact .up (ih h)
  | case5 here rest name h0 h1 h2 location hnode ih => exact .down ⟨h0, h1, h2⟩ hnode (ih h)
  | case6 here rest name h0 h1 h2 location content hnode hrest =>
    obtain rfl := Except.ok.inj h
    obtain rfl := List.isEmpty_iff.1 hrest
    exact .file ⟨h0, h1, h2⟩ hnode
  | case7 => contradiction
  | case8 here rest name h0 h1 h2 location hnode hrest =>
    obtain rfl := Except.ok.inj h
    obtain rfl := List.isEmpty_iff.1 hrest
    exact .vacant ⟨h0, h1, h2⟩ hnode
  | case9 => contradiction

theorem walk_of_walks {place : Place} (h : Walks t here ps place) : t.walk here ps = .ok place := by
  induction h with
  | done here => rfl
  | stay hpiece _ ih => rcases hpiece with rfl | rfl <;> exact ih
  | up _ ih => exact ih
  | @down here rest piece _ hpiece hnode _ ih =>
    rw [walk.eq_5 t here piece rest hpiece.1 hpiece.2.1 hpiece.2.2, hnode]
    exact ih
  | @file here piece _ hpiece hnode =>
    rw [walk.eq_5 t here piece [] hpiece.1 hpiece.2.1 hpiece.2.2, hnode]
    rfl
  | @vacant here piece hpiece hnode =>
    rw [walk.eq_5 t here piece [] hpiece.1 hpiece.2.1 hpiece.2.2, hnode]
    rfl

theorem walk_eq_ok_iff {place : Place} : t.walk here ps = .ok place ↔ Walks t here ps place :=
  ⟨walks_of_walk, walk_of_walks⟩

/-- What a walk finds at its end stands in the tree. -/
def Place.Stands (t : FileTree) : Place → Prop
  | .directory _ => True
  | .file location content => t.node? location = some (.file content) ∧ location ≠ []
  | .vacant location => t.node? location = none ∧ location ≠ []

theorem Walks.stands {place : Place} (h : Walks t here ps place) : place.Stands t := by
  induction h with
  | done => trivial
  | stay _ _ ih => exact ih
  | up _ ih => exact ih
  | down _ _ _ ih => exact ih
  | file _ hnode => exact ⟨hnode, by simp⟩
  | vacant _ hnode => exact ⟨hnode, by simp⟩

/-- Where a file is put through a path that leads to the place. -/
def Place.target? : Place → Option (List String)
  | .directory _ => none
  | .file location _ | .vacant location => some location

theorem Place.Stands.target {place : Place} (h : place.Stands t)
    (hplace : place.target? = some location) :
    location ≠ [] ∧ t.node? location ≠ some .directory := by
  cases place with
  | directory => contradiction
  | file _ content =>
    obtain rfl := Option.some.inj hplace
    exact ⟨h.2, by simp [h.1]⟩
  | vacant =>
    obtain rfl := Option.some.inj hplace
    exact ⟨h.2, by simp [h.1]⟩

/-- A last piece that names an entry is the end of the location. -/
theorem Walks.location_eq {piece : List Char} (hpiece : NamesEntry piece) {place : Place}
    (h : Walks t here [piece] place) (hplace : place.target? = some location) :
    location = here ++ [String.ofList piece] := by
  generalize hps : [piece] = ps at h
  cases h with
  | done => contradiction
  | stay hstay _ =>
    obtain ⟨rfl, -⟩ := List.cons.inj hps
    exact absurd hstay (not_or.2 ⟨hpiece.1, hpiece.2.1⟩)
  | up _ => exact absurd (List.cons.inj hps).1 hpiece.2.2
  | down _ _ hrest =>
    obtain ⟨-, rfl⟩ := List.cons.inj hps
    cases hrest
    contradiction
  | file =>
    obtain ⟨rfl, -⟩ := List.cons.inj hps
    exact (Option.some.inj hplace).symm
  | vacant =>
    obtain ⟨rfl, -⟩ := List.cons.inj hps
    exact (Option.some.inj hplace).symm

/-- All but the last piece lead to a directory. -/
theorem Walks.of_append {qs : List (List Char)} (hqs : qs ≠ []) {place : Place}
    (h : Walks t here (ps ++ qs) place) :
    ∃ directory, Walks t here ps (.directory directory) ∧ Walks t directory qs place := by
  induction ps generalizing here with
  | nil => exact ⟨here, .done here, h⟩
  | cons piece ps ih =>
    have hne : ps ++ qs ≠ [] := by simp [hqs]
    generalize hall : piece :: ps ++ qs = all at h
    cases h with
    | done => simp at hall
    | stay hpiece hrest =>
      obtain ⟨rfl, rfl⟩ := List.cons.inj hall
      obtain ⟨directory, hps, hqs⟩ := ih hrest
      exact ⟨directory, .stay hpiece hps, hqs⟩
    | up hrest =>
      obtain ⟨rfl, rfl⟩ := List.cons.inj hall
      obtain ⟨directory, hps, hqs⟩ := ih hrest
      exact ⟨directory, .up hps, hqs⟩
    | down hpiece hnode hrest =>
      obtain ⟨rfl, rfl⟩ := List.cons.inj hall
      obtain ⟨directory, hps, hqs⟩ := ih hrest
      exact ⟨directory, .down hpiece hnode hps, hqs⟩
    | file => exact absurd (List.cons.inj hall).2 hne
    | vacant => exact absurd (List.cons.inj hall).2 hne

/-! ## What writes leave -/

/-- From one tree to another the files at `locations` were written, and besides at most directories
were made where there was nothing. -/
structure Writes (locations : List (List String)) (before after : FileTree) : Prop where
  workingDirectory_eq : after.workingDirectory = before.workingDirectory
  written : ∀ l ∈ locations,
    before.node? l ≠ some .directory ∧ ∃ content, after.node? l = some (.file content)
  elsewhere : ∀ l ∉ locations, after.node? l = before.node? l ∨
    before.node? l = none ∧ after.node? l = some .directory

namespace Writes

variable {locations locations' : List (List String)}

theorem refl (t : FileTree) : Writes [] t t := ⟨rfl, by simp, fun _ _ => .inl rfl⟩

/-- A file that is not written stays as it was. -/
theorem node?_file (h : Writes locations t u) (hl : l ∉ locations)
    (ht : t.node? l = some (.file content)) : u.node? l = some (.file content) := by
  rcases h.elsewhere l hl with he | ⟨hnone, -⟩
  · exact he.trans ht
  · simp [ht] at hnone

/-- What is nothing in the end was nothing before. -/
theorem node?_eq_none (h : Writes locations t u) (hl : u.node? l = none) : t.node? l = none := by
  by_cases hm : l ∈ locations
  · obtain ⟨-, content, hfile⟩ := h.written l hm
    rw [hfile] at hl
    contradiction
  · rcases h.elsewhere l hm with he | ⟨hnone, -⟩
    · exact he.symm.trans hl
    · exact hnone

theorem trans (h : Writes locations t u) (h' : Writes locations' u v) :
    Writes (locations ++ locations') t v := by
  refine ⟨h'.workingDirectory_eq.trans h.workingDirectory_eq, fun l hl => ?_, fun l hl => ?_⟩
  · by_cases hl' : l ∈ locations'
    · obtain ⟨hdir, hfile⟩ := h'.written l hl'
      refine ⟨fun ht => ?_, hfile⟩
      by_cases hm : l ∈ locations
      · exact (h.written l hm).1 ht
      · rcases h.elsewhere l hm with he | ⟨hnone, -⟩
        · exact hdir (he.trans ht)
        · simp [ht] at hnone
    · have hm : l ∈ locations := (List.mem_append.1 hl).resolve_right hl'
      obtain ⟨hdir, content, hfile⟩ := h.written l hm
      exact ⟨hdir, content, h'.node?_file hl' hfile⟩
  · rw [List.mem_append, not_or] at hl
    rcases h.elsewhere l hl.1 with he | ⟨hnone, hdir⟩
    · rcases h'.elsewhere l hl.2 with he' | ⟨hnone, hdir⟩
      · exact .inl (he'.trans he)
      · exact .inr ⟨he ▸ hnone, hdir⟩
    · rcases h'.elsewhere l hl.2 with he' | ⟨hnone', -⟩
      · exact .inr ⟨hnone, he'.trans hdir⟩
      · simp [hdir] at hnone'

/-- What was a directory stays one. -/
theorem directory (h : Writes locations t u) (ht : t.node? l = some .directory) :
    u.node? l = some .directory := by
  by_cases hl : l ∈ locations
  · exact absurd ht (h.written l hl).1
  · rcases h.elsewhere l hl with he | ⟨-, hdir⟩
    · exact he.trans ht
    · exact hdir

/-- A path to a place for a file goes on leading there, and to the file once there is one. -/
theorem walks_file (h : Writes locations t u) {place : Place} (hw : Walks t here ps place)
    (hplace : place.target? = some location) (hfile : u.node? location = some (.file content)) :
    Walks u here ps (.file location content) := by
  induction hw with
  | done => contradiction
  | stay hpiece _ ih => exact .stay hpiece (ih hplace)
  | up _ ih => exact .up (ih hplace)
  | down hpiece hnode _ ih => exact .down hpiece (h.directory hnode) (ih hplace)
  | file hpiece =>
    obtain rfl := Option.some.inj hplace
    exact .file hpiece hfile
  | vacant hpiece =>
    obtain rfl := Option.some.inj hplace
    exact .file hpiece hfile

end Writes

/-! ## Paths -/

/-- The directory from which a path is looked up. -/
def start (t : FileTree) (path : String) : List String :=
  if Path.isAbsolute path then [] else t.workingDirectory

theorem find_eq_ok_iff {place : Place} : t.find path = .ok place ↔
    path.toList ≠ [] ∧ Walks t (t.start path) (Path.pieces path) place := by
  rw [find, ← walk_eq_ok_iff]
  by_cases hpath : path.toList = []
  · rw [if_pos (String.isEmpty_iff.2 (String.toList_eq_nil_iff.1 hpath))]
    simp [hpath]
  · rw [if_neg fun h => hpath (String.toList_eq_nil_iff.2 (String.isEmpty_iff.1 h))]
    exact ⟨fun h => ⟨hpath, h⟩, fun h => h.2⟩

theorem Writes.start_eq {locations : List (List String)} (h : Writes locations t u)
    (path : String) : u.start path = t.start path := by
  rw [start, start, h.workingDirectory_eq]

/-- The path leads to the file at the location, whatever it holds. -/
def LeadsTo (t : FileTree) (path : String) (location : List String) : Prop :=
  ∃ content, t.find path = .ok (.file location content)

theorem find_of_leadsTo (h : t.LeadsTo path location)
    (hnode : t.node? location = some (.file content)) :
    t.find path = .ok (.file location content) := by
  obtain ⟨held, hfind⟩ := h
  have hstands := (find_eq_ok_iff.1 hfind).2.stands.1
  rw [hnode] at hstands
  obtain rfl := FileNode.file.inj (Option.some.inj hstands)
  exact hfind

theorem Writes.leadsTo {locations : List (List String)} (h : Writes locations t u)
    (hl : t.LeadsTo path location) : u.LeadsTo path location := by
  obtain ⟨held, hfind⟩ := hl
  obtain ⟨hpath, hwalk⟩ := find_eq_ok_iff.1 hfind
  have hnode := hwalk.stands.1
  have hkept : ∃ content, u.node? location = some (.file content) := by
    by_cases hm : location ∈ locations
    · exact (h.written location hm).2
    · exact ⟨held, h.node?_file hm hnode⟩
  obtain ⟨content, hcontent⟩ := hkept
  refine ⟨content, find_eq_ok_iff.2 ⟨hpath, ?_⟩⟩
  rw [h.start_eq]
  exact h.walks_file hwalk rfl hcontent

/-- The file that two names below a directory lead to lies in the directory that the first of them
leads to, under the second. -/
theorem directory_of_leadsTo {base dir name : String} (hdir : Path.IsEntryName dir)
    (hname : Path.IsEntryName name)
    (h : t.LeadsTo (Path.join base (Path.join dir name)) location) :
    ∃ directory, t.find (Path.join base dir) = .ok (.directory directory) ∧
      location = directory ++ [name] := by
  obtain ⟨content, hfind⟩ := h
  obtain ⟨-, hwalk⟩ := find_eq_ok_iff.1 hfind
  have hrel := Path.isAbsolute_of_isEntryName hdir
  have hrel' := Path.isAbsolute_join_of_isEntryName hdir hname
  have hpieces : Path.pieces (Path.join base (Path.join dir name)) =
      Path.pieces (Path.join base dir) ++ [name.toList] := by
    rw [Path.pieces_join hrel', Path.pieces_join (Path.isAbsolute_of_isEntryName hname),
      Path.pieces_join hrel, Path.pieces_of_isEntryName hname, List.append_assoc]
  have hstart : t.start (Path.join base (Path.join dir name)) = t.start (Path.join base dir) := by
    rw [start, start, Path.isAbsolute_join hrel', Path.isAbsolute_join hrel]
  rw [hpieces, hstart] at hwalk
  obtain ⟨directory, hto, hlast⟩ := hwalk.of_append (by simp)
  refine ⟨directory, find_eq_ok_iff.2 ⟨Path.toList_join_ne_nil hdir.ne_nil, hto⟩, ?_⟩
  rw [hlast.location_eq ⟨hname.ne_nil, hname.ne_dot, hname.ne_dots⟩ rfl, String.ofList_toList]

/-! ## Operations -/

theorem write_eq_ok (h : t.write path content = .ok u) :
    ∃ place location, t.find path = .ok place ∧ place.target? = some location ∧
      u = t.put location (.file content) ∧ endsInSlash path = false := by
  unfold write at h
  split at h
  · contradiction
  · contradiction
  · rename_i location hfind
    split at h
    · contradiction
    · rename_i hslash
      obtain rfl := Except.ok.inj h
      exact ⟨_, location, hfind, rfl, rfl, by simpa using hslash⟩
  · rename_i location held hfind
    split at h
    · contradiction
    · rename_i hslash
      obtain rfl := Except.ok.inj h
      exact ⟨_, location, hfind, rfl, rfl, by simpa using hslash⟩

/-- A file that is written is found under its path, and nothing else has changed. -/
theorem writes_of_write (h : t.write path content = .ok u) :
    ∃ location, Writes [location] t u ∧ u.find path = .ok (.file location content) ∧
      endsInSlash path = false ∧ ∀ l, l ≠ location → u.node? l = t.node? l := by
  obtain ⟨place, location, hfind, hplace, rfl, hslash⟩ := write_eq_ok h
  obtain ⟨hpath, hwalk⟩ := find_eq_ok_iff.1 hfind
  obtain ⟨hne, hdir⟩ := hwalk.stands.target hplace
  have hnode : (t.put location (.file content)).node? location = some (.file content) := by
    rw [node?_put hne, if_pos rfl]
  have hother : ∀ l, l ≠ location → (t.put location (.file content)).node? l = t.node? l :=
    fun l hl => by rw [node?_put hne, if_neg hl]
  have hwrites : Writes [location] t (t.put location (.file content)) := by
    refine ⟨rfl, fun l hl => ?_, fun l hl => .inl (hother l (by simpa using hl))⟩
    obtain rfl := List.mem_singleton.1 hl
    exact ⟨hdir, content, hnode⟩
  refine ⟨location, hwrites, find_eq_ok_iff.2 ⟨hpath, ?_⟩, hslash, hother⟩
  rw [hwrites.start_eq]
  exact hwrites.walks_file hwalk hplace hnode

end CommandForge.FileTree
