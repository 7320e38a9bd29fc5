import Mathlib.Data.List.Nodup
import CommandForge.Proofs.Files.Made
/-!
# Trees that are listed in another order

A tree holds each location once (`listed`), so the order of its entries says nothing but in which
order a directory lists what is in it. Two trees that differ in this only (`Relisted`) have the same
nodes, hence every path leads to the same place in both.
-/

namespace CommandForge.FileTree

/-- The one tree holds the entries of the other, perhaps in another order. -/
structure Relisted (t u : FileTree) : Prop where
  perm : t.entries.Perm u.entries
  workingDirectory_eq : u.workingDirectory = t.workingDirectory

theorem lookup_eq_of_perm {entries entries' : List (List String × FileNode)}
    (h : entries.Perm entries') (hn : (entries.map (·.1)).Nodup) (l : List String) :
    entries.lookup l = entries'.lookup l := by
  induction h with
  | nil => rfl
  | cons e _ ih =>
    rw [List.lookup_cons, List.lookup_cons, ih (List.nodup_cons.1 hn).2]
  | swap e e' rest =>
    have hne : e'.1 ≠ e.1 := by
      intro he
      simp [he] at hn
    rw [List.lookup_cons, List.lookup_cons, List.lookup_cons, List.lookup_cons]
    by_cases h : l = e.1
    · rw [h, beq_eq_false_iff_ne.2 hne.symm]
    · rw [beq_eq_false_iff_ne.2 h]
  | trans h _ ih ih' => exact (ih hn).trans (ih' ((h.map _).nodup_iff.1 hn))

section

variable {t u : FileTree} (hlisted : t.listed.Nodup) (h : Relisted t u)

include hlisted h

theorem Relisted.node?_eq (l : List String) : u.node? l = t.node? l := by
  rw [node?, node?, lookup_eq_of_perm h.perm hlisted]

theorem Relisted.walk_eq (here : List String) (ps : List (List Char)) :
    u.walk here ps = t.walk here ps := by
  induction ps generalizing here with
  | nil => rfl
  | cons piece rest ih =>
    -- The trees come in by the nodes that they have, and those are the same.
    unfold walk
    simp only [ih, h.node?_eq hlisted]

theorem Relisted.find_eq (path : String) : u.find path = t.find path := by
  rw [find, find, h.workingDirectory_eq, h.walk_eq hlisted]

theorem Relisted.isDirectory_eq (path : String) : u.isDirectory path = t.isDirectory path := by
  rw [isDirectory, isDirectory, h.find_eq hlisted]

theorem Relisted.isFile_eq (path : String) : u.isFile path = t.isFile path := by
  rw [isFile, isFile, h.find_eq hlisted]

theorem Relisted.readText_eq (path : String) : u.readText path = t.readText path := by
  rw [readText, readText, h.find_eq hlisted]

/-- A directory lists the same names. -/
theorem Relisted.list_perm (path : String) : (t.list path).Perm (u.list path) := by
  rw [list, list, h.find_eq hlisted]
  split
  · exact h.perm.filterMap _
  · exact .refl _

end

/-- A directory lists every name once. -/
theorem nodup_list {t : FileTree} (hlisted : t.listed.Nodup) (path : String) :
    (t.list path).Nodup := by
  rw [list]
  split
  · rename_i directory _
    have hnames : t.namesIn directory =
        t.listed.filterMap fun l => if l.dropLast = directory then l.getLast? else none := by
      rw [listed, List.filterMap_map]
      rfl
    rw [hnames]
    -- The directory and the name make up the location.
    refine List.Nodup.filterMap (fun l l' name hl hl' => ?_) hlisted
    have hlocation : ∀ {l : List String},
        name ∈ (if l.dropLast = directory then l.getLast? else none) → l = directory ++ [name] := by
      intro l hl
      split at hl
      · rename_i hdirectory
        obtain ⟨above, rfl⟩ := List.getLast?_eq_some_iff.1 hl
        rw [← hdirectory, List.dropLast_concat]
      · contradiction
    rw [hlocation hl, hlocation hl']
  · exact List.nodup_nil

end CommandForge.FileTree
