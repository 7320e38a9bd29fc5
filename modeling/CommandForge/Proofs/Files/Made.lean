import Mathlib.Logic.Relation
import CommandForge.Proofs.Files.Tree
/-!
# What making directories and writing files adds

The directories that are made above a file are those that the paths above it lead to (`Makes`), and
what is new in a tree is listed behind what it had (`Grows`). So a directory lists its entries as
before, and behind them the new ones, which have names that can be listed
(`namesIn_eq_of_grows`).
-/

namespace CommandForge

/-- The path without its last component is the other one. -/
def Path.HasParent (path above : String) : Prop := parent? path = some above

/-- The path `above` is the parent of `path`, or above the parent. -/
def Path.IsAbove (above path : String) : Prop := Relation.TransGen HasParent path above

/-- A location that ends in a name that a directory can list. -/
def EndsInName (location : List String) : Prop :=
  ∃ directory name, location = directory ++ [name] ∧ Path.IsEntryName name

namespace FileTree

variable {t u v : FileTree} {here location l : List String} {ps : List (List Char)}
  {content : Content} {path : String} {locations : List (List String)}

/-! ## Locations of new entries -/

theorem isEntryName_of_namesEntry {piece : List Char} (h : NamesEntry piece)
    (hslash : '/' ∉ piece) : Path.IsEntryName (String.ofList piece) := by
  obtain ⟨h0, h1, h2⟩ := h
  constructor <;> rwa [String.toList_ofList]

theorem slash_notMem_of_mem_pieces {piece : List Char} (h : piece ∈ Path.pieces path) :
    '/' ∉ piece :=
  Text.not_mem_of_mem_split (List.mem_filter.1 h).1

theorem Walks.endsInName {place : Place} (h : Walks t here ps place)
    (hplace : place.target? = some location) (hps : ∀ piece ∈ ps, '/' ∉ piece) :
    EndsInName location := by
  induction h with
  | done => contradiction
  | stay _ _ ih => exact ih hplace fun piece hp => hps piece (List.mem_cons_of_mem _ hp)
  | up _ ih => exact ih hplace fun piece hp => hps piece (List.mem_cons_of_mem _ hp)
  | down _ _ _ ih => exact ih hplace fun piece hp => hps piece (List.mem_cons_of_mem _ hp)
  | file hpiece =>
    obtain rfl := Option.some.inj hplace
    exact ⟨_, _, rfl, isEntryName_of_namesEntry hpiece (hps _ List.mem_cons_self)⟩
  | vacant hpiece =>
    obtain rfl := Option.some.inj hplace
    exact ⟨_, _, rfl, isEntryName_of_namesEntry hpiece (hps _ List.mem_cons_self)⟩

theorem endsInName_of_find {place : Place} (h : t.find path = .ok place)
    (hplace : place.target? = some location) : EndsInName location :=
  (find_eq_ok_iff.1 h).2.endsInName hplace fun _ hp => slash_notMem_of_mem_pieces hp

/-! ## Listings -/

/-- The locations in a tree, in the order in which they are listed. -/
def listed (t : FileTree) : List (List String) := t.entries.map (·.1)

theorem node?_eq_none (hne : l ≠ []) (hl : l ∉ t.listed) : t.node? l = none := by
  have hlookup : t.entries.lookup l = none := by
    rw [List.lookup_eq_none_iff]
    intro e he
    exact bne_iff_ne.2 fun heq => hl (List.mem_map.2 ⟨e, he, heq.symm⟩)
  simp [node?, hne, hlookup]

/-- The locations of the one tree come first in the other, and behind them stand new ones, which
end in names. -/
def Grows (t u : FileTree) : Prop :=
  ∃ added, u.listed = t.listed ++ added ∧ ∀ l ∈ added, l ∉ t.listed ∧ EndsInName l

theorem Grows.refl (t : FileTree) : Grows t t := ⟨[], by simp, by simp⟩

theorem Grows.trans (h : Grows t u) (h' : Grows u v) : Grows t v := by
  obtain ⟨added, hu, hadded⟩ := h
  obtain ⟨added', hv, hadded'⟩ := h'
  refine ⟨added ++ added', by rw [hv, hu, List.append_assoc], fun l hl => ?_⟩
  rcases List.mem_append.1 hl with hl | hl
  · exact hadded l hl
  · obtain ⟨hnew, hname⟩ := hadded' l hl
    rw [hu, List.mem_append, not_or] at hnew
    exact ⟨hnew.1, hname⟩

theorem map_fst_putEntry (location : List String) (node : FileNode)
    (entries : List (List String × FileNode)) :
    (putEntry location node entries).map (·.1) =
      if location ∈ entries.map (·.1) then entries.map (·.1)
      else entries.map (·.1) ++ [location] := by
  induction entries with
  | nil => simp [putEntry]
  | cons e entries ih =>
    obtain ⟨k, n⟩ := e
    by_cases hk : k = location
    · simp [putEntry, hk]
    · simp only [putEntry, if_neg hk, List.map_cons, ih, List.mem_cons, Ne.symm hk, false_or]
      split <;> rfl

theorem grows_put (node : FileNode) (hname : EndsInName location) :
    Grows t (t.put location node) := by
  have hkeys : (t.put location node).listed = if location ∈ t.listed then t.listed
      else t.listed ++ [location] := map_fst_putEntry location node t.entries
  by_cases hl : location ∈ t.listed
  · rw [if_pos hl] at hkeys
    exact ⟨[], by simpa using hkeys, by simp⟩
  · rw [if_neg hl] at hkeys
    refine ⟨[location], hkeys, fun l hl' => ?_⟩
    obtain rfl := List.mem_singleton.1 hl'
    exact ⟨hl, hname⟩

theorem grows_of_write (h : t.write path content = .ok u) : Grows t u := by
  obtain ⟨place, location, hfind, hplace, rfl, -⟩ := write_eq_ok h
  exact grows_put _ (endsInName_of_find hfind hplace)

/-- A directory lists what it listed, and behind that names of new entries. -/
theorem namesIn_eq_of_grows (h : Grows t u) (directory : List String) :
    ∃ names, u.namesIn directory = t.namesIn directory ++ names ∧
      ∀ name ∈ names, Path.IsEntryName name ∧ t.node? (directory ++ [name]) = none := by
  obtain ⟨added, hu, hadded⟩ := h
  let names (ls : List (List String)) : List String :=
    ls.filterMap fun l => if l.dropLast = directory then l.getLast? else none
  have hnames : ∀ t : FileTree, t.namesIn directory = names t.listed := by
    intro t
    simp only [names, listed, List.filterMap_map]
    rfl
  refine ⟨names added, ?_, fun name hname => ?_⟩
  · rw [hnames, hnames, hu]
    exact List.filterMap_append ..
  · obtain ⟨l, hl, hlast⟩ := List.mem_filterMap.1 hname
    obtain ⟨hnew, above, last, rfl, hentry⟩ := hadded l hl
    rw [List.dropLast_concat, List.getLast?_concat] at hlast
    split at hlast
    · rename_i habove
      obtain rfl := Option.some.inj hlast
      subst habove
      exact ⟨hentry, node?_eq_none (by simp) hnew⟩
    · contradiction

/-! ## Directories that stay and directories that are made -/

/-- A path goes on leading to a directory, and leads to the directory that is made where it led to
nothing. -/
theorem Writes.walks_directory (h : Writes locations t u) {place : Place}
    (hw : Walks t here ps place)
    (hplace : place = .directory l ∨ place = .vacant l ∧ u.node? l = some .directory) :
    Walks u here ps (.directory l) := by
  induction hw with
  | done here =>
    rcases hplace with hplace | ⟨hplace, -⟩
    · cases hplace
      exact .done _
    · cases hplace
  | stay hpiece _ ih => exact .stay hpiece (ih hplace)
  | up _ ih => exact .up (ih hplace)
  | down hpiece hnode _ ih => exact .down hpiece (h.directory hnode) (ih hplace)
  | file =>
    rcases hplace with hplace | ⟨hplace, -⟩ <;> cases hplace
  | vacant hpiece =>
    rcases hplace with hplace | ⟨hplace, hnode⟩
    · cases hplace
    · cases hplace
      exact .down hpiece hnode (.done _)

theorem Writes.find_directory (h : Writes locations t u) {place : Place}
    (hfind : t.find path = .ok place)
    (hplace : place = .directory l ∨ place = .vacant l ∧ u.node? l = some .directory) :
    u.find path = .ok (.directory l) := by
  obtain ⟨hpath, hwalk⟩ := find_eq_ok_iff.1 hfind
  refine find_eq_ok_iff.2 ⟨hpath, ?_⟩
  rw [h.start_eq]
  exact h.walks_directory hwalk hplace

/-- From one tree to another directories were made, each where one of the paths leads. -/
structure Makes (paths : String → Prop) (before after : FileTree) : Prop where
  writes : Writes [] before after
  grows : Grows before after
  made : ∀ l, after.node? l ≠ before.node? l →
    ∃ path, paths path ∧ after.find path = .ok (.directory l)

namespace Makes

variable {paths paths' : String → Prop}

theorem refl (t : FileTree) : Makes paths t t := ⟨.refl t, .refl t, fun _ h => absurd rfl h⟩

theorem mono (h : Makes paths t u) (hpaths : ∀ p, paths p → paths' p) : Makes paths' t u := by
  refine ⟨h.writes, h.grows, fun l hl => ?_⟩
  obtain ⟨p, hp, hfind⟩ := h.made l hl
  exact ⟨p, hpaths p hp, hfind⟩

theorem trans (h : Makes paths t u) (h' : Makes paths u v) : Makes paths t v := by
  refine ⟨h.writes.trans h'.writes, h.grows.trans h'.grows, fun l hl => ?_⟩
  by_cases hv : v.node? l = u.node? l
  · rw [hv] at hl
    obtain ⟨p, hp, hfind⟩ := h.made l hl
    exact ⟨p, hp, h'.writes.find_directory hfind (.inl rfl)⟩
  · exact h'.made l hv

end Makes

theorem makes_of_makeDirectory (h : t.makeDirectory path = .ok u) : Makes (· = path) t u := by
  unfold makeDirectory at h
  split at h
  · contradiction
  · rename_i location hfind
    obtain rfl := Except.ok.inj h
    obtain ⟨hnode, hne⟩ := (find_eq_ok_iff.1 hfind).2.stands
    have hput : (t.put location .directory).node? location = some .directory := by
      rw [node?_put hne, if_pos rfl]
    have hother : ∀ l, l ≠ location → (t.put location .directory).node? l = t.node? l :=
      fun l hl => by rw [node?_put hne, if_neg hl]
    have hwrites : Writes [] t (t.put location .directory) := by
      refine ⟨rfl, by simp, fun l _ => ?_⟩
      by_cases hl : l = location
      · subst hl
        exact .inr ⟨hnode, hput⟩
      · exact .inl (hother l hl)
    refine ⟨hwrites, grows_put _ (endsInName_of_find hfind rfl), fun l hl => ⟨path, rfl, ?_⟩⟩
    by_cases heq : l = location
    · subst heq
      exact hwrites.find_directory hfind (.inr ⟨rfl, hput⟩)
    · exact absurd (hother l heq) hl
  · contradiction

theorem makes_makeDirectories_last : Makes (· = path) t (makeDirectories.last t path).1 := by
  unfold makeDirectories.last
  split
  · rename_i h
    exact makes_of_makeDirectory h
  · split
    · exact .refl t
    · exact .refl t

theorem makes_makeDirectories_go (steps : Nat) :
    Makes (Relation.ReflTransGen Path.HasParent path) t (makeDirectories.go steps t path).1 := by
  induction steps generalizing path with
  | zero =>
    unfold makeDirectories.go
    split
    · exact .refl t
    · exact .refl t
  | succ steps ih =>
    have hself : ∀ p, p = path → Relation.ReflTransGen Path.HasParent path p := by
      rintro p rfl
      exact .refl
    unfold makeDirectories.go
    split
    · exact .refl t
    · split
      · rename_i h
        exact (makes_of_makeDirectory h).mono hself
      · split
        · exact .refl t
        · rename_i above hparent
          have hup : Path.HasParent path above := hparent
          have hmade : Makes (Relation.ReflTransGen Path.HasParent above) t
              (makeDirectories.go steps t above).1 := ih
          have habove := hmade.mono fun _ hp => hp.head hup
          split
          · rename_i hgo
            rw [hgo] at habove
            exact habove
          · rename_i hgo
            rw [hgo] at habove
            exact habove.trans (makes_makeDirectories_last.mono hself)
      · split
        · exact .refl t
        · exact .refl t

/-- Making the directories above a file only makes such directories, also when it fails halfway. -/
theorem makes_makeAbove (t : FileTree) (file : String) :
    Makes (Path.IsAbove · file) t (t.makeAbove file).1 := by
  unfold makeAbove
  split
  · exact .refl t
  · rename_i above hparent
    have hup : Path.HasParent file above := hparent
    have hmade : Makes (Relation.ReflTransGen Path.HasParent above) t
        (t.makeDirectories above).1 := makes_makeDirectories_go above.length
    have h := hmade.mono fun _ hp => Relation.TransGen.head' hup hp
    split
    · rename_i hresult
      rw [hresult] at h
      exact h
    · rename_i hresult
      rw [hresult] at h
      exact h

end FileTree

end CommandForge
