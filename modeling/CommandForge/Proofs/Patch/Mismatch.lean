import CommandForge.Fixture
import CommandForge.Proofs.Patch.Applied
/-!
# The patch of a mismatch

The patch that is reported for an artifact whose fixture says something else tells how to get from
the one text to the other, blank space aside: its hunks show the lines of both in order, and if the
first header and the last one are on the same line in both texts, applying them gives the artifact,
and applying them the other way gives the fixture (`mismatch_patch`).

Moving an insertion past a deletion leaves them with the places that they had before, so a hunk at
an end of both texts may be announced for lines where it is not (`misplaced_hunk`).
-/

namespace CommandForge.Patch

/-! ## A misplaced hunk -/

variable {α : Type} [DecidableEq α] {old new : Array α}

/-- Where there is a point to split at, the script of a pair of ranges is put together from those of
the parts and what both ranges have in common at their ends. -/
theorem Window.script_of_split? {w : Window} {front back : Nat} {p : Nat × Nat}
    (hfront : agreeAfter old new w.i w.j w.n w.m = front)
    (hback : agreeBefore old new (w.dropFront front).i (w.dropFront front).j (w.dropFront front).n
      (w.dropFront front).m = back)
    (hn : ((w.dropFront front).dropEnd back).n ≠ 0) (hm : ((w.dropFront front).dropEnd back).m ≠ 0)
    (hsplit : ((w.dropFront front).dropEnd back).split? old new = some p) :
    w.script old new = kept w.i w.j front ++
      (script old new (((w.dropFront front).dropEnd back).before p) ++
        script old new (((w.dropFront front).dropEnd back).behind p)) ++
      kept (((w.dropFront front).dropEnd back).i + ((w.dropFront front).dropEnd back).n)
        (((w.dropFront front).dropEnd back).j + ((w.dropFront front).dropEnd back).m) back := by
  subst hfront
  subst hback
  rw [Window.script, if_neg fun h => hn h.1, if_neg hm, if_neg hn]
  split
  · rename_i q hq
    obtain rfl := Option.some.inj (hq.symm.trans hsplit)
    rfl
  · rename_i hnone
    rw [hsplit] at hnone
    cases hnone

/-- The inserted line comes before the deleted one at first. -/
theorem search_first_replaced : search #["a\n", "b\n"] #["b\n", "b\n"] =
    [⟨.insert, 0, 0, 0, 1⟩, ⟨.delete, 0, 1, 1, 0⟩, ⟨.keep, 1, 1, 1, 1⟩] := by
  have hfront : agreeAfter #["a\n", "b\n"] #["b\n", "b\n"] 0 0 2 2 = 0 := by decide +kernel
  have hback : agreeBefore #["a\n", "b\n"] #["b\n", "b\n"] 0 0 2 2 = 1 := by decide +kernel
  have hsplit : Window.split? #["a\n", "b\n"] #["b\n", "b\n"] ⟨0, 1, 0, 1⟩ = some (0, 1) := by
    decide +kernel
  have hinsert : Window.script #["a\n", "b\n"] #["b\n", "b\n"] ⟨0, 0, 0, 1⟩ =
      [⟨.insert, 0, 0, 0, 1⟩] := by
    rw [Window.script]
    rfl
  have hdelete : Window.script #["a\n", "b\n"] #["b\n", "b\n"] ⟨0, 1, 1, 0⟩ =
      [⟨.delete, 0, 1, 1, 0⟩] := by
    rw [Window.script]
    rfl
  change Window.script _ _ ⟨0, 2, 0, 2⟩ = _
  rw [Window.script_of_split? hfront hback (by decide) (by decide) hsplit]
  simp only [Window.dropFront, Window.dropEnd, Window.before, Window.behind, hinsert, hdelete,
    Nat.add_zero, Nat.sub_zero]
  rfl

/-- It is moved behind the kept line, and the deletion still goes by the place behind it. -/
theorem script_first_replaced : script #["a\n", "b\n"] #["b\n", "b\n"] =
    [⟨.delete, 0, 1, 1, 0⟩, ⟨.keep, 1, 1, 0, 1⟩, ⟨.insert, 1, 0, 1, 1⟩] := by
  rw [script, search_first_replaced]
  cbv

theorem unified_first_replaced : unified "a\nb\n" "b\nb\n" =
    "--- expected\n+++ actual\n@@ -1 +2 @@\n-a\n b\n+b\n" := by
  have hold : linesOf "a\nb\n" = #["a\n", "b\n"] := by decide +kernel
  have hnew : linesOf "b\nb\n" = #["b\n", "b\n"] := by decide +kernel
  unfold unified
  dsimp only
  rw [hold, hnew, script_first_replaced]
  decide +kernel

theorem rangeText_of_le_two {n : Nat} (hn : n ≤ 2) :
    rangeText 0 n = "0,0" ∨ rangeText 0 n = "1" ∨ rangeText 0 n = "1,2" := by
  obtain rfl | rfl | rfl : n = 0 ∨ n = 1 ∨ n = 2 := by omega
  · exact .inl (by decide +kernel)
  · exact .inr (.inl (by decide +kernel))
  · exact .inr (.inr (by decide +kernel))

/-- However the patch is read, its header does not give the ranges of two lines each. -/
theorem not_patches_first_replaced {hs : List Shown}
    (htext : patchText hs = "--- expected\n+++ actual\n@@ -1 +2 @@\n-a\n b\n+b\n") :
    ¬ Patches ["a\n", "b\n"] ["b\n", "b\n"] hs := by
  intro hpatches
  generalize hold : ["a\n", "b\n"] = old at hpatches
  generalize hnew : ["b\n", "b\n"] = new at hpatches
  cases hpatches with
  | rest =>
    rw [← hold] at hnew
    exact absurd hnew (by decide +kernel)
  | @hunk _ _ h hs old new same here behind =>
    cases same with
    | cons line same =>
      obtain rfl := (List.cons.inj hold).1
      exact absurd (List.cons.inj hnew).1 (by decide +kernel)
    | nil =>
      -- The hunk starts with both texts, so its header starts with line one on both sides.
      obtain ⟨hi, hoc, hj, hnc⟩ := here
      rw [List.length_nil, Nat.add_zero] at hi hj
      have holdLen := congrArg List.length hold
      have hnewLen := congrArg List.length hnew
      simp only [List.length_append, List.length_cons, List.length_nil] at holdLen hnewLen
      unfold patchText at htext
      rw [List.map_cons, String.join_cons] at htext
      unfold Shown.text at htext
      rw [hi, hj, Nat.zero_add, Nat.zero_add] at htext
      have hchars := congrArg String.toList htext
      simp only [String.toList_append] at hchars
      rcases rangeText_of_le_two (n := h.oldLen) (by omega) with hr | hr | hr
      · simp [hr] at hchars
      · rcases rangeText_of_le_two (n := h.newLen) (by omega) with hr' | hr' | hr'
        · simp [hr, hr'] at hchars
        · simp [hr, hr'] at hchars
        · simp [hr, hr'] at hchars
      · simp [hr] at hchars

end CommandForge.Patch

namespace CommandForge.Fixture

open CommandForge.Patch

variable {files : FileTree} {root expected : String} {a : Artifact}

theorem difference?_eq {text text' : String} (h : Text.canonical text ≠ Text.canonical text') :
    difference? text text' =
      some (patchText (shownHunks (Text.canonical text) (Text.canonical text'))) := by
  unfold difference?
  dsimp only
  rw [if_neg h]
  exact congrArg some (unified_eq h)

theorem mismatch?_eq (hread : files.readText (path root a) = .ok expected)
    (hdiffer : Text.canonical expected ≠ Text.canonical a.content) :
    mismatch? files root a = some ⟨a.command, a.language, path root a,
      patchText (shownHunks (Text.canonical expected) (Text.canonical a.content))⟩ := by
  have hdiff : diff? files root a = difference? expected a.content := by
    unfold diff?
    rw [hread]
  rw [mismatch?, hdiff, difference?_eq hdiffer, Option.map_some]

/-- The patch of a mismatch shows the lines of both texts in order, and its headers are right and
lead from each text to the other exactly if the first and the last one are aligned. -/
theorem mismatch_patch (hread : files.readText (path root a) = .ok expected)
    (hdiffer : Text.canonical expected ≠ Text.canonical a.content) :
    let old := (linesOf (Text.canonical expected)).toList
    let new := (linesOf (Text.canonical a.content)).toList
    String.join old = Text.canonical expected ∧ String.join new = Text.canonical a.content ∧
      ∃ hs ≠ [],
        mismatch? files root a = some ⟨a.command, a.language, path root a, patchText hs⟩ ∧
        Rewrites (fun h i j => 0 < i → i + h.oldLines.length < old.length → h.At i j) 0 0 hs old
          new ∧
        (Patches old new hs ↔ Aligned old new hs) ∧
        (apply hs old = some new ↔ Aligned old new hs) ∧
        (apply (hs.map Shown.flip) new = some old ↔ Aligned old new hs) := by
  intro old new
  have hnear : Rewrites (Shown.Near old.length new.length) 0 0
      (shownHunks (Text.canonical expected) (Text.canonical a.content)) old new :=
    rewrites_shownHunks _ _
  refine ⟨join_linesOf _, join_linesOf _, shownHunks _ _, shownHunks_ne_nil hdiffer, ?_⟩
  refine ⟨mismatch?_eq hread hdiffer, ?_, patches_iff_aligned hnear,
    apply_eq_some_iff_aligned hnear, apply_flip_eq_some_iff_aligned hnear⟩
  exact hnear.mono fun h i j hh => hh.at

theorem mismatch_patch_ping :
    let files : FileTree := ⟨[(["exp"], .directory), (["exp", "python"], .directory),
      (["exp", "python", "ping.py"], .file (.text "a\nb\n"))], []⟩
    let a : Artifact := ⟨"python", "Ping", "ping", "ping.py", [], "a\nc\n"⟩
    let old := (linesOf (Text.canonical "a\nb\n")).toList
    let new := (linesOf (Text.canonical a.content)).toList
    files.readText (path "exp" a) = .ok "a\nb\n" ∧
      Text.canonical "a\nb\n" ≠ Text.canonical a.content ∧
      String.join old = Text.canonical "a\nb\n" ∧ String.join new = Text.canonical a.content ∧
      ∃ hs ≠ [],
        mismatch? files "exp" a = some ⟨a.command, a.language, path "exp" a, patchText hs⟩ ∧
        Rewrites (fun h i j => 0 < i → i + h.oldLines.length < old.length → h.At i j) 0 0 hs old
          new ∧
        (Patches old new hs ↔ Aligned old new hs) ∧
        (apply hs old = some new ↔ Aligned old new hs) ∧
        (apply (hs.map Shown.flip) new = some old ↔ Aligned old new hs) := by
  intro files a
  have hread : files.readText (path "exp" a) = .ok "a\nb\n" := by decide +kernel
  have hdiffer : Text.canonical "a\nb\n" ≠ Text.canonical a.content := by decide +kernel
  exact ⟨hread, hdiffer, mismatch_patch hread hdiffer⟩

/-- A line is replaced by one like its neighbour, and the header gives one line of each text where
the hunk has two. -/
theorem misplaced_hunk :
    let files : FileTree := ⟨[(["exp"], .directory), (["exp", "python"], .directory),
      (["exp", "python", "ping.py"], .file (.text "a\nb\n"))], []⟩
    let a : Artifact := ⟨"python", "Ping", "ping", "ping.py", [], "b\nb\n"⟩
    let patch := "--- expected\n+++ actual\n@@ -1 +2 @@\n-a\n b\n+b\n"
    files.readText (path "exp" a) = .ok "a\nb\n" ∧
      Text.canonical "a\nb\n" = "a\nb\n" ∧ Text.canonical a.content = "b\nb\n" ∧
      mismatch? files "exp" a = some ⟨"Ping", "python", "exp/python/ping.py", patch⟩ ∧
      ∀ hs, patchText hs = patch → ¬ Patches ["a\n", "b\n"] ["b\n", "b\n"] hs := by
  intro files a patch
  have hread : files.readText (path "exp" a) = .ok "a\nb\n" := by decide +kernel
  have hold : Text.canonical "a\nb\n" = "a\nb\n" := by decide +kernel
  have hnew : Text.canonical a.content = "b\nb\n" := by decide +kernel
  have hpath : path "exp" a = "exp/python/ping.py" := by decide +kernel
  have hdiff : diff? files "exp" a = some patch := by
    unfold diff?
    rw [hread]
    unfold difference?
    dsimp only
    rw [hold, hnew, if_neg (by decide +kernel)]
    exact congrArg some unified_first_replaced
  refine ⟨hread, hold, hnew, ?_, fun hs => not_patches_first_replaced⟩
  rw [mismatch?, hdiff, hpath, Option.map_some]

end CommandForge.Fixture
