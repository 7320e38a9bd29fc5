import CommandForge.Patch.Search
/-!
# Scripts that turn one list into another

The edits of a script cover both lists without a gap: each starts where the one before it ends, on
the side that it touches, and what is kept agrees (`Edit.Covers`, `Chain`). Where an edit is said
to start on the side that it does not touch is left open: tidying does not keep track of that. The
search finds such a script, whatever the split points are (`covers_search`).
-/

namespace CommandForge.Patch

/-! ## Chains -/

/-- Parts stand one behind the other, each from where the one before it ends, in an old and in a
new list. -/
inductive Chain {σ : Type} (covers : σ → Nat → Nat → Nat → Nat → Prop) :
    List σ → Nat → Nat → Nat → Nat → Prop
  | nil {i j} : Chain covers [] i j i j
  | cons {s ss i j i' j' x y} (h : covers s i j i' j') (hs : Chain covers ss i' j' x y) :
      Chain covers (s :: ss) i j x y

section

variable {σ : Type} {covers : σ → Nat → Nat → Nat → Nat → Prop} {s : σ} {ss ts : List σ}
  {i j x y : Nat}

theorem chain_nil : Chain covers [] i j x y ↔ x = i ∧ y = j := by
  constructor
  · intro h
    cases h
    exact ⟨rfl, rfl⟩
  · rintro ⟨rfl, rfl⟩
    exact .nil

theorem chain_cons : Chain covers (s :: ss) i j x y ↔
    ∃ i' j', covers s i j i' j' ∧ Chain covers ss i' j' x y := by
  constructor
  · intro h
    cases h with
    | cons h hs => exact ⟨_, _, h, hs⟩
  · rintro ⟨i', j', h, hs⟩
    exact .cons h hs

/-- Two runs of parts make a chain exactly when the one starts where the other ends. -/
theorem chain_append : Chain covers (ss ++ ts) i j x y ↔
    ∃ i' j', Chain covers ss i j i' j' ∧ Chain covers ts i' j' x y := by
  induction ss generalizing i j with
  | nil =>
    constructor
    · intro h
      exact ⟨i, j, .nil, h⟩
    · rintro ⟨i', j', h, ht⟩
      obtain ⟨rfl, rfl⟩ := chain_nil.1 h
      exact ht
  | cons s ss ih =>
    rw [List.cons_append, chain_cons]
    constructor
    · rintro ⟨i₁, j₁, hs, h⟩
      obtain ⟨i₂, j₂, hss, hts⟩ := ih.1 h
      exact ⟨i₂, j₂, .cons hs hss, hts⟩
    · rintro ⟨i₂, j₂, h, hts⟩
      obtain ⟨i₁, j₁, hs, hss⟩ := chain_cons.1 h
      exact ⟨i₁, j₁, hs, ih.2 ⟨i₂, j₂, hss, hts⟩⟩

end

/-! ## Agreement -/

variable {α : Type} {old new : Array α} {i j m n : Nat}

/-- The `len` old items from `i` on are the new ones from `j` on. -/
def Agree (old new : Array α) (i j len : Nat) : Prop :=
  ∀ k < len, old[i + k]? = new[j + k]?

theorem Agree.mono (h : Agree old new i j n) (hm : m ≤ n) : Agree old new i j m :=
  fun k hk => h k (Nat.lt_of_lt_of_le hk hm)

theorem Agree.drop (h : Agree old new i j n) (m : Nat) : Agree old new (i + m) (j + m) (n - m) := by
  intro k hk
  have hmk := h (m + k) (by omega)
  rwa [← Nat.add_assoc, ← Nat.add_assoc] at hmk

/-- Two agreeing stretches, one behind the other, are one agreeing stretch. -/
theorem Agree.append (h : Agree old new i j m) (h' : Agree old new (i + m) (j + m) n) :
    Agree old new i j (m + n) := by
  intro k hk
  by_cases hkm : k < m
  · exact h k hkm
  · have hrest := h' (k - m) (by omega)
    rw [Nat.add_assoc, Nat.add_assoc] at hrest
    have hsub : m + (k - m) = k := by omega
    rwa [hsub] at hrest

/-- What is counted from a place on agrees from there on. -/
theorem agree_agreeAfter [DecidableEq α] (old new : Array α) (i j p q : Nat) :
    Agree old new i j (agreeAfter old new i j p q) := by
  fun_induction agreeAfter old new i j p q with
  | case1 i j p q heq ih =>
    rw [Nat.add_comm]
    refine Agree.append ?_ ih
    intro k hk
    obtain rfl : k = 0 := by omega
    exact heq
  | case2 => exact fun k hk => absurd hk (by omega)
  | case3 => exact fun k hk => absurd hk (by omega)

/-- What is counted back from a place agrees up to there. -/
theorem agree_agreeBefore [DecidableEq α] (old new : Array α) (i j p q : Nat) :
    Agree old new (i + p - agreeBefore old new i j p q) (j + q - agreeBefore old new i j p q)
      (agreeBefore old new i j p q) := by
  fun_induction agreeBefore old new i j p q with
  | case1 p q heq ih =>
    have hle := agreeBefore_le old new i j p q
    have hold : i + (p + 1) - (agreeBefore old new i j p q + 1) =
        i + p - agreeBefore old new i j p q := by omega
    have hnew : j + (q + 1) - (agreeBefore old new i j p q + 1) =
        j + q - agreeBefore old new i j p q := by omega
    rw [hold, hnew]
    refine Agree.append ih ?_
    intro k hk
    obtain rfl : k = 0 := by omega
    have hp : i + p - agreeBefore old new i j p q + agreeBefore old new i j p q + 0 = i + p := by
      omega
    have hq : j + q - agreeBefore old new i j p q + agreeBefore old new i j p q + 0 = j + q := by
      omega
    rw [hp, hq, heq]
  | case2 => exact fun k hk => absurd hk (by omega)
  | case3 => exact fun k hk => absurd hk (by omega)

/-! ## Edits -/

/-- The edit stands for the old items from `i` to `x` and the new ones from `j` to `y`. -/
inductive Edit.Covers (old new : Array α) (e : Edit) (i j x y : Nat) : Prop
  | keep (kind : e.kind = .keep) (pos : 0 < e.oldLen) (len : e.newLen = e.oldLen)
      (oldStart : e.oldStart = i) (newStart : e.newStart = j)
      (agree : Agree old new i j e.oldLen) (oldStop : x = i + e.oldLen) (newStop : y = j + e.oldLen)
  | delete (kind : e.kind = .delete) (pos : 0 < e.oldLen) (len : e.newLen = 0)
      (oldStart : e.oldStart = i) (oldStop : x = i + e.oldLen) (newStop : y = j)
  | insert (kind : e.kind = .insert) (pos : 0 < e.newLen) (len : e.oldLen = 0)
      (newStart : e.newStart = j) (oldStop : x = i) (newStop : y = j + e.newLen)

namespace Window

/-- An agreeing stretch is covered by keeping it. -/
theorem covers_kept (h : Agree old new i j n) :
    Chain (Edit.Covers old new) (kept i j n) i j (i + n) (j + n) := by
  unfold kept
  split
  · rename_i hn
    rw [hn]
    exact .nil
  · refine .cons ?_ .nil
    exact .keep rfl (Nat.pos_of_ne_zero ‹_›) rfl rfl rfl h rfl rfl

theorem covers_deletion {w : Window} (hn : 0 < w.n) :
    Edit.Covers old new w.deletion w.i w.j (w.i + w.n) w.j :=
  .delete rfl hn rfl rfl rfl rfl

theorem covers_insertion {w : Window} (hm : 0 < w.m) :
    Edit.Covers old new w.insertion w.i w.j w.i (w.j + w.m) :=
  .insert rfl hm rfl rfl rfl rfl

/-- Scripts for both parts of a split, one behind the other, are a script for the whole. -/
theorem covers_parts {w : Window} {p : Nat × Nat} (hp : w.IsSplit p) {ss ts : List Edit}
    (hs : Chain (Edit.Covers old new) ss (w.before p).i (w.before p).j
      ((w.before p).i + (w.before p).n) ((w.before p).j + (w.before p).m))
    (ht : Chain (Edit.Covers old new) ts (w.behind p).i (w.behind p).j
      ((w.behind p).i + (w.behind p).n) ((w.behind p).j + (w.behind p).m)) :
    Chain (Edit.Covers old new) (ss ++ ts) w.i w.j (w.i + w.n) (w.j + w.m) := by
  have hold : w.i + p.1 + (w.n - p.1) = w.i + w.n := by
    have := hp.1
    omega
  have hnew : w.j + p.2 + (w.m - p.2) = w.j + w.m := by
    have := hp.2.1
    omega
  simp only [before, behind] at hs ht
  rw [hold, hnew] at ht
  exact chain_append.2 ⟨_, _, hs, ht⟩

/-- Whatever the split points are, the script of a pair of ranges covers both. -/
theorem covers_script [DecidableEq α] (old new : Array α) (w : Window) :
    Chain (Edit.Covers old new) (w.script old new) w.i w.j (w.i + w.n) (w.j + w.m) := by
  fun_induction Window.script old new w with
  | case1 w front rest back core middle ihBefore ihBehind =>
    have hfront : front ≤ w.n ∧ front ≤ w.m := agreeAfter_le old new w.i w.j w.n w.m
    have hback : back ≤ w.n - front ∧ back ≤ w.m - front :=
      agreeBefore_le old new rest.i rest.j rest.n rest.m
    have hstop : core.i + core.n = rest.i + rest.n - back ∧
        core.j + core.m = rest.j + rest.m - back := by
      simp only [core, rest, dropEnd, dropFront]
      omega
    have hmiddle : Chain (Edit.Covers old new) middle core.i core.j (core.i + core.n)
        (core.j + core.m) := by
      simp only [middle]
      split
      · rename_i hnone
        rw [hnone.1, hnone.2]
        exact .nil
      · split
        · rename_i hnone hm
          have hn : 0 < core.n := Nat.pos_of_ne_zero fun hn => hnone ⟨hn, hm⟩
          rw [hm]
          exact .cons (covers_deletion hn) .nil
        · split
          · rename_i hm hn
            rw [hn]
            exact .cons (covers_insertion (Nat.pos_of_ne_zero hm)) .nil
          · rename_i hm hn
            split
            · rename_i p hp
              exact covers_parts (isSplit_of_split? hp) (ihBefore p hp) (ihBehind p hp)
            · refine .cons (covers_deletion (Nat.pos_of_ne_zero hn)) (.cons ?_ .nil)
              exact .insert rfl (Nat.pos_of_ne_zero hm) rfl rfl rfl rfl
    have hkeptFront : Chain (Edit.Covers old new) (kept w.i w.j front) w.i w.j core.i core.j :=
      covers_kept (agree_agreeAfter old new w.i w.j w.n w.m)
    have hkeptBack : Chain (Edit.Covers old new) (kept (core.i + core.n) (core.j + core.m) back)
        (core.i + core.n) (core.j + core.m) (w.i + w.n) (w.j + w.m) := by
      have hagree := agree_agreeBefore old new rest.i rest.j rest.n rest.m
      have hold : core.i + core.n + back = w.i + w.n := by
        simp only [core, rest, dropEnd, dropFront]
        omega
      have hnew : core.j + core.m + back = w.j + w.m := by
        simp only [core, rest, dropEnd, dropFront]
        omega
      rw [← hold, ← hnew]
      apply covers_kept
      rw [hstop.1, hstop.2]
      exact hagree
    exact chain_append.2 ⟨_, _, chain_append.2 ⟨_, _, hkeptFront, hmiddle⟩, hkeptBack⟩

end Window

/-- The script that is found covers both lists from start to end. -/
theorem covers_search [DecidableEq α] (old new : Array α) :
    Chain (Edit.Covers old new) (search old new) 0 0 old.size new.size := by
  have hscript := Window.covers_script old new ⟨0, old.size, 0, new.size⟩
  rwa [Nat.zero_add, Nat.zero_add] at hscript

end CommandForge.Patch
