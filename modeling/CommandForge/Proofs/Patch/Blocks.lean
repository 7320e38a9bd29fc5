import Mathlib.Algebra.GroupWithZero.Nat
import Mathlib.Data.List.SplitBy
import CommandForge.Patch.Hunk
import CommandForge.Proofs.Patch.Script
/-!
# Blocks and hunks of a script

The blocks of a script that covers two lists cover them too (`covers_blocks`), and the hunks with
the agreeing stretches between them do (`spread_hunks`). A block of changes is only known to start
where it stands on a side of which it has items, so the ranges of a hunk are right where a kept
block is at its end: at the start of every hunk but the first one, and at the end of every hunk but
the last one.
-/

namespace CommandForge.Patch

variable {α : Type} {old new : Array α} {i j x y m n : Nat}

/-! ## Runs of edits -/

/-- The block stands for the old items from `i` to `x` and the new ones from `j` to `y`. -/
inductive Block.Covers (old new : Array α) (b : Block) (i j x y : Nat) : Prop
  | keep (keeps : b.keeps = true) (pos : 0 < b.oldLen) (len : b.newLen = b.oldLen)
      (oldStart : b.oldStart = i) (newStart : b.newStart = j)
      (agree : Agree old new i j b.oldLen) (oldStop : x = i + b.oldLen) (newStop : y = j + b.oldLen)
  | change (changes : b.keeps = false) (pos : 0 < b.oldLen + b.newLen)
      (oldStart : b.oldLen = 0 ∨ b.oldStart = i) (newStart : b.newLen = 0 ∨ b.newStart = j)
      (oldStop : x = i + b.oldLen) (newStop : y = j + b.newLen)

theorem foldl_add_eq {σ : Type} (f : σ → Nat) (run : List σ) (n : Nat) :
    run.foldl (fun n e => n + f e) n = n + (run.map f).sum := by
  induction run generalizing n with
  | nil => rfl
  | cons e run ih =>
    rw [List.foldl_cons, ih, List.map_cons, List.sum_cons]
    omega

theorem agree_of_keeps {run : List Edit} (hrun : ∀ e ∈ run, e.kind = .keep)
    (h : Chain (Edit.Covers old new) run i j x y) :
    Agree old new i j (run.map Edit.oldLen).sum ∧ x = i + (run.map Edit.oldLen).sum ∧
      y = j + (run.map Edit.oldLen).sum := by
  induction run generalizing i j with
  | nil =>
    obtain ⟨rfl, rfl⟩ := chain_nil.1 h
    exact ⟨fun k hk => absurd hk (Nat.not_lt_zero k), rfl, rfl⟩
  | cons e run ih =>
    obtain ⟨hk, hrest⟩ := List.forall_mem_cons.1 hrun
    obtain ⟨i', j', he, hs⟩ := chain_cons.1 h
    cases he with
    | delete kind => exact absurd (hk.symm.trans kind) (by decide)
    | insert kind => exact absurd (hk.symm.trans kind) (by decide)
    | keep kind pos len oldStart newStart agree oldStop newStop =>
      obtain ⟨hagree, hx, hy⟩ := ih hrest hs
      rw [oldStop, newStop] at hagree
      rw [List.map_cons, List.sum_cons]
      exact ⟨agree.append hagree, by omega, by omega⟩

/-- The deletions of a run of changes start where it does in the old list, its insertions where it
does in the new one. -/
theorem starts_of_changes {run : List Edit} (hrun : ∀ e ∈ run, e.kind ≠ .keep)
    (h : Chain (Edit.Covers old new) run i j x y) :
    x = i + ((run.filter (·.kind = .delete)).map Edit.oldLen).sum ∧
      y = j + ((run.filter (·.kind = .insert)).map Edit.newLen).sum ∧
      (∀ d ∈ (run.filter (·.kind = .delete)).head?, d.oldStart = i ∧ 0 < d.oldLen) ∧
      (∀ e ∈ (run.filter (·.kind = .insert)).head?, e.newStart = j ∧ 0 < e.newLen) := by
  induction run generalizing i j with
  | nil =>
    obtain ⟨rfl, rfl⟩ := chain_nil.1 h
    exact ⟨rfl, rfl, by simp, by simp⟩
  | cons e run ih =>
    obtain ⟨hk, hrest⟩ := List.forall_mem_cons.1 hrun
    obtain ⟨i', j', he, hs⟩ := chain_cons.1 h
    obtain ⟨hx, hy, hdelete, hinsert⟩ := ih hrest hs
    cases he with
    | keep kind => exact absurd kind hk
    | delete kind pos len oldStart oldStop newStop =>
      rw [List.filter_cons_of_pos (by simp [kind]), List.filter_cons_of_neg (by simp [kind]),
        List.map_cons, List.sum_cons]
      refine ⟨by omega, by omega, ?_, ?_⟩
      · intro d hd
        obtain rfl := Option.some.inj hd
        exact ⟨oldStart, pos⟩
      · rwa [newStop] at hinsert
    | insert kind pos len newStart oldStop newStop =>
      rw [List.filter_cons_of_neg (by simp [kind]), List.filter_cons_of_pos (by simp [kind]),
        List.map_cons, List.sum_cons]
      refine ⟨by omega, by omega, ?_, ?_⟩
      · rwa [oldStop] at hdelete
      · intro d hd
        obtain rfl := Option.some.inj hd
        exact ⟨newStart, pos⟩

theorem covers_ofChanges {run : List Edit} (hne : run ≠ []) (hrun : ∀ e ∈ run, e.kind ≠ .keep)
    (h : Chain (Edit.Covers old new) run i j x y) :
    (Block.ofChanges run).Covers old new i j x y := by
  obtain ⟨hx, hy, hdelete, hinsert⟩ := starts_of_changes hrun h
  simp only [Block.ofChanges, foldl_add_eq, Nat.zero_add]
  split
  · rename_i d ds e es hds hes
    obtain ⟨hd, hdpos⟩ := hdelete d (by rw [hds]; rfl)
    obtain ⟨he, hepos⟩ := hinsert e (by rw [hes]; rfl)
    rw [hds, List.map_cons, List.sum_cons] at hx
    rw [hes, List.map_cons, List.sum_cons] at hy
    refine .change rfl ?_ (.inr hd) (.inr he) ?_ ?_
    all_goals simp only [hds, hes, List.map_cons, List.sum_cons]
    all_goals omega
  · rename_i d ds hds hes
    obtain ⟨hd, hdpos⟩ := hdelete d (by rw [hds]; rfl)
    rw [hds, List.map_cons, List.sum_cons] at hx
    rw [hes, List.map_nil, List.sum_nil] at hy
    refine .change rfl ?_ (.inr hd) (.inl rfl) ?_ ?_
    all_goals simp only [hds, List.map_cons, List.sum_cons]
    all_goals omega
  · rename_i e es hds hes
    obtain ⟨he, hepos⟩ := hinsert e (by rw [hes]; rfl)
    rw [hds, List.map_nil, List.sum_nil] at hx
    rw [hes, List.map_cons, List.sum_cons] at hy
    refine .change rfl ?_ (.inl rfl) (.inr he) ?_ ?_
    all_goals simp only [hes, List.map_cons, List.sum_cons]
    all_goals omega
  · rename_i hds hes
    -- Every edit of the run deletes or inserts, so there is one of either kind.
    obtain ⟨e, es, rfl⟩ := List.exists_cons_of_ne_nil hne
    have hk := hrun e List.mem_cons_self
    cases hkind : e.kind with
    | keep => exact absurd hkind hk
    | delete => simp [hkind] at hds
    | insert => simp [hkind] at hes

theorem kind_iff_of_isChain {e : Edit} {es : List Edit}
    (h : (e :: es).IsChain fun a b => ((a.kind = .keep) == (b.kind = .keep)) = true) :
    ∀ a ∈ e :: es, a.kind = .keep ↔ e.kind = .keep := by
  induction es generalizing e with
  | nil =>
    intro a ha
    rw [List.mem_singleton.1 ha]
  | cons f es ih =>
    obtain ⟨hef, hes⟩ := List.isChain_cons_cons.1 h
    intro a ha
    rcases List.mem_cons.1 ha with rfl | ha
    · exact Iff.rfl
    · rw [ih hes a ha]
      exact (decide_eq_decide.1 (eq_of_beq hef)).symm

theorem covers_ofRun {run : List Edit} (hne : run ≠ [])
    (hrun : run.IsChain fun a b => ((a.kind = .keep) == (b.kind = .keep)) = true)
    (h : Chain (Edit.Covers old new) run i j x y) : (Block.ofRun run).Covers old new i j x y := by
  obtain ⟨e, es, rfl⟩ := List.exists_cons_of_ne_nil hne
  have hkind := kind_iff_of_isChain hrun
  rw [Block.ofRun]
  split
  · rename_i hk
    obtain ⟨hagree, hx, hy⟩ := agree_of_keeps (fun a ha => (hkind a ha).2 hk) h
    obtain ⟨i', j', he, -⟩ := chain_cons.1 h
    cases he with
    | delete kind => exact absurd (hk.symm.trans kind) (by decide)
    | insert kind => exact absurd (hk.symm.trans kind) (by decide)
    | keep kind pos len oldStart newStart agree oldStop newStop =>
      simp only [foldl_add_eq, Nat.zero_add]
      refine .keep rfl ?_ rfl oldStart newStart hagree hx hy
      simp only [List.map_cons, List.sum_cons]
      omega
  · rename_i hk
    exact covers_ofChanges hne (fun a ha hak => hk ((hkind a ha).1 hak)) h

/-- What covers piece by piece covers as a whole. -/
theorem chain_map_of_flatten {σ τ : Type} {covers : σ → Nat → Nat → Nat → Nat → Prop}
    {covers' : τ → Nat → Nat → Nat → Nat → Prop} {f : List σ → τ} {runs : List (List σ)}
    (hf : ∀ run ∈ runs, ∀ {i j x y}, Chain covers run i j x y → covers' (f run) i j x y)
    (h : Chain covers runs.flatten i j x y) : Chain covers' (runs.map f) i j x y := by
  induction runs generalizing i j with
  | nil =>
    obtain ⟨rfl, rfl⟩ := chain_nil.1 h
    exact .nil
  | cons run runs ih =>
    obtain ⟨hrun, hruns⟩ := List.forall_mem_cons.1 hf
    obtain ⟨i', j', hhead, htail⟩ := chain_append.1 h
    exact .cons (hrun hhead) (ih hruns htail)

theorem covers_blocks {script : List Edit} (h : Chain (Edit.Covers old new) script i j x y) :
    Chain (Block.Covers old new) (blocks script) i j x y := by
  have hruns := List.flatten_splitBy (fun a b : Edit => (a.kind = .keep) == (b.kind = .keep)) script
  rw [← hruns] at h
  refine chain_map_of_flatten (fun run hrun i j x y hc => ?_) h
  exact covers_ofRun (List.ne_nil_of_mem_splitBy hrun) (List.isChain_of_mem_splitBy hrun) hc

/-! ## Kept blocks cut short -/

namespace Block.Covers

variable {b : Block}

theorem lt (h : b.Covers old new i j x y) : i ≤ x ∧ j ≤ y ∧ i + j < x + y := by
  cases h with
  | keep keeps pos len oldStart newStart agree oldStop newStop => omega
  | change changes pos oldStart newStart oldStop newStop => omega

/-- A kept block is exactly where it says. -/
theorem of_keeps (hk : b.keeps = true) (h : b.Covers old new i j x y) :
    0 < b.oldLen ∧ b.newLen = b.oldLen ∧ b.oldStart = i ∧ b.newStart = j ∧
      Agree old new i j b.oldLen ∧ x = i + b.oldLen ∧ y = j + b.oldLen := by
  cases h with
  | change changes =>
    rw [hk] at changes
    cases changes
  | keep keeps pos len oldStart newStart agree oldStop newStop =>
    exact ⟨pos, len, oldStart, newStart, agree, oldStop, newStop⟩

theorem first (hk : b.keeps = true) (hn : 0 < n) (h : b.Covers old new i j x y) :
    (b.first n).Covers old new i j (i + min b.oldLen n) (j + min b.oldLen n) := by
  obtain ⟨pos, len, oldStart, newStart, agree, -, -⟩ := h.of_keeps hk
  refine .keep hk ?_ ?_ oldStart newStart (agree.mono (Nat.min_le_left ..)) rfl rfl
  · exact Nat.lt_min.2 ⟨pos, hn⟩
  · rw [Block.first, len]

theorem last (hk : b.keeps = true) (hn : 0 < n) (h : b.Covers old new i j x y) :
    (b.last n).Covers old new (i + (b.oldLen - n)) (j + (b.oldLen - n)) x y := by
  obtain ⟨pos, len, oldStart, newStart, agree, oldStop, newStop⟩ := h.of_keeps hk
  refine .keep hk ?_ ?_ ?_ ?_ (agree.drop _) ?_ ?_
  all_goals simp only [Block.last]
  all_goals omega

end Block.Covers

/-! ## Hunks -/

/-- The hunk does not start with a change. -/
def FirstKeeps (bs : List Block) : Prop := ∀ b ∈ bs.head?, b.keeps = true

def LastKeeps (bs : List Block) : Prop := ∀ b ∈ bs.getLast?, b.keeps = true

/-- From `i` and `j` to the ends of both lists there are hunks with agreeing stretches between them.
A hunk starts and ends with a kept block unless it does so with both lists. -/
inductive Spread (old new : Array α) : List Hunk → Nat → Nat → Prop
  | tail {i j n : Nat} (agree : Agree old new i j n) (oldStop : i + n = old.size)
      (newStop : j + n = new.size) : Spread old new [] i j
  | hunk {i j n x y : Nat} {hunk : Hunk} {hunks : List Hunk} (ne : hunk ≠ [])
      (gap : Agree old new i j n)
      (covers : Chain (Block.Covers old new) hunk (i + n) (j + n) x y)
      (first : FirstKeeps hunk ∨ i + n = 0 ∧ j + n = 0)
      (last : LastKeeps hunk ∨ x = old.size ∧ y = new.size)
      (rest : Spread old new hunks x y) : Spread old new (hunk :: hunks) i j

theorem Spread.skip {hunks : List Hunk} (hgap : Agree old new i j m)
    (h : Spread old new hunks (i + m) (j + m)) : Spread old new hunks i j := by
  cases h with
  | tail agree oldStop newStop =>
    exact .tail (hgap.append agree) ((Nat.add_assoc ..).symm.trans oldStop)
      ((Nat.add_assoc ..).symm.trans newStop)
  | hunk ne gap covers first last rest =>
    rw [Nat.add_assoc, Nat.add_assoc] at covers first
    exact .hunk ne (hgap.append gap) covers first last rest

variable {bs pending : List Block} {b : Block}

theorem firstKeeps_append_cons {ts us : List Block} {c : Block}
    (hc : b.keeps = true → c.keeps = true) (h : FirstKeeps (bs ++ b :: ts)) :
    FirstKeeps (bs ++ c :: us) := by
  cases bs with
  | nil =>
    intro d hd
    obtain rfl := Option.some.inj hd
    exact hc (h b rfl)
  | cons d bs => exact h

theorem lastKeeps_concat (bs : List Block) (hb : b.keeps = true) : LastKeeps (bs ++ [b]) := by
  intro d hd
  rw [List.getLast?_concat] at hd
  obtain rfl := Option.some.inj hd
  exact hb

theorem lastKeeps_cons {c : Block} (hc : c.keeps = true) (h : LastKeeps (pending ++ b :: bs)) :
    LastKeeps (c :: bs) := by
  cases bs with
  | nil => exact lastKeeps_concat [] hc
  | cons d bs =>
    intro e he
    apply h e
    rw [List.getLast?_append, List.getLast?_cons_cons]
    rw [List.getLast?_cons_cons] at he
    rw [he]
    rfl

theorem covers_trimFront (h : Chain (Block.Covers old new) bs i j x y) :
    ∃ n, Agree old new i j n ∧ Chain (Block.Covers old new) (trimFront bs) (i + n) (j + n) x y ∧
      (FirstKeeps (trimFront bs) ∨ n = 0) := by
  have hnone : Agree old new i j 0 := fun k hk => absurd hk (Nat.not_lt_zero k)
  cases bs with
  | nil => exact ⟨0, hnone, h, .inr rfl⟩
  | cons b bs =>
    rw [trimFront]
    split
    · rename_i hk
      obtain ⟨i', j', hb, hbs⟩ := chain_cons.1 h
      obtain ⟨pos, len, oldStart, newStart, agree, oldStop, newStop⟩ := hb.of_keeps hk
      refine ⟨b.oldLen - context, agree.mono (Nat.sub_le ..), ?_, .inl ?_⟩
      · exact .cons (hb.last hk (by decide)) hbs
      · intro c hc
        obtain rfl := Option.some.inj hc
        exact hk
    · exact ⟨0, hnone, h, .inr rfl⟩

theorem trimBack_cons_ne_nil (b : Block) (bs : List Block) : trimBack (b :: bs) ≠ [] := by
  cases bs with
  | nil =>
    rw [trimBack]
    split
    · exact List.cons_ne_nil _ _
    · exact List.cons_ne_nil _ _
  | cons c bs => exact List.cons_ne_nil _ _

theorem covers_trimBack (h : Chain (Block.Covers old new) bs i j x y) :
    ∃ n x' y', Chain (Block.Covers old new) (trimBack bs) i j x' y' ∧ Agree old new x' y' n ∧
      x' + n = x ∧ y' + n = y ∧ (LastKeeps (trimBack bs) ∨ n = 0) := by
  have hnone (x y : Nat) : Agree old new x y 0 := fun k hk => absurd hk (Nat.not_lt_zero k)
  fun_induction trimBack bs generalizing i j with
  | case1 => exact ⟨0, x, y, h, hnone x y, rfl, rfl, .inr rfl⟩
  | case2 b hk =>
    obtain ⟨i', j', hb, hnil⟩ := chain_cons.1 h
    obtain ⟨rfl, rfl⟩ := chain_nil.1 hnil
    obtain ⟨pos, len, oldStart, newStart, agree, oldStop, newStop⟩ := hb.of_keeps hk
    refine ⟨b.oldLen - min b.oldLen context, _, _, .cons (hb.first hk (by decide)) .nil,
      agree.drop _, ?_, ?_, .inl (lastKeeps_concat [] hk)⟩
    · omega
    · omega
  | case3 b hk => exact ⟨0, x, y, h, hnone x y, rfl, rfl, .inr rfl⟩
  | case4 b next rest ih =>
    obtain ⟨i', j', hb, hbs⟩ := chain_cons.1 h
    obtain ⟨n, x', y', hcovers, hagree, hx, hy, hlast⟩ := ih hbs
    refine ⟨n, x', y', .cons hb hcovers, hagree, hx, hy, hlast.imp_left ?_⟩
    obtain ⟨d, ds, hrest⟩ := List.exists_cons_of_ne_nil (trimBack_cons_ne_nil next rest)
    intro hkeeps c hc
    rw [hrest, List.getLast?_cons_cons, ← hrest] at hc
    exact hkeeps c hc

theorem firstKeeps_trimBack (h : FirstKeeps bs) : FirstKeeps (trimBack bs) := by
  fun_cases trimBack bs with
  | case1 => exact h
  | case2 b hk =>
    intro c hc
    obtain rfl := Option.some.inj hc
    exact hk
  | case3 => exact h
  | case4 b next rest => exact h

/-- What is cut into hunks is spread: the pending blocks begin a hunk, and those to come go on. -/
theorem spread_cutHunks {x' y' : Nat} (hgap : Agree old new i j n)
    (hpending : Chain (Block.Covers old new) pending (i + n) (j + n) x' y')
    (hbs : Chain (Block.Covers old new) bs x' y' x y) (htail : Agree old new x y m)
    (hold : x + m = old.size) (hnew : y + m = new.size)
    (hfirst : FirstKeeps (pending ++ bs) ∨ i + n = 0 ∧ j + n = 0)
    (hlast : LastKeeps (pending ++ bs) ∨ m = 0) : Spread old new (cutHunks pending bs) i j := by
  induction bs generalizing i j n x' y' pending with
  | nil =>
    obtain ⟨rfl, rfl⟩ := chain_nil.1 hbs
    rw [List.append_nil] at hfirst hlast
    have hone (hne : pending ≠ []) : Spread old new [pending] i j := by
      refine .hunk hne hgap hpending hfirst (hlast.imp_right ?_) (.tail htail hold hnew)
      intro hm
      exact ⟨by omega, by omega⟩
    cases pending with
    | nil =>
      obtain ⟨rfl, rfl⟩ := chain_nil.1 hpending
      exact .skip hgap (.tail htail hold hnew)
    | cons b pending =>
      cases pending with
      | cons c pending => exact hone (by simp)
      | nil =>
        rw [cutHunks]
        split
        · rename_i hk
          obtain ⟨i', j', hb, hnil⟩ := chain_cons.1 hpending
          obtain ⟨rfl, rfl⟩ := chain_nil.1 hnil
          obtain ⟨pos, len, oldStart, newStart, agree, rfl, rfl⟩ := hb.of_keeps hk
          exact .skip hgap (.skip agree (.tail htail hold hnew))
        · exact hone (by simp)
  | cons b bs ih =>
    obtain ⟨i', j', hb, hrest⟩ := chain_cons.1 hbs
    rw [cutHunks]
    split
    · rename_i hlong
      obtain ⟨hk, hlong⟩ := Bool.and_eq_true_iff.1 hlong
      have hlen : 2 * context < b.oldLen := of_decide_eq_true hlong
      obtain ⟨pos, len, oldStart, newStart, agree, oldStop, newStop⟩ := hb.of_keeps hk
      have hmin : min b.oldLen context = context := by omega
      have hhead := hb.first hk (n := context) (by decide)
      have hback := hb.last hk (n := context) (by decide)
      rw [hmin] at hhead
      have hx' : x' + (b.oldLen - context) = x' + context + (b.oldLen - context - context) := by
        omega
      have hy' : y' + (b.oldLen - context) = y' + context + (b.oldLen - context - context) := by
        omega
      rw [hx', hy'] at hback
      refine .hunk (by simp) hgap (chain_append.2 ⟨x', y', hpending, .cons hhead .nil⟩)
        (hfirst.imp_left (firstKeeps_append_cons fun _ => hk)) (.inl (lastKeeps_concat _ hk)) ?_
      apply ih ((agree.drop context).mono (Nat.sub_le ..)) (.cons hback .nil) hrest
      · left
        intro c hc
        obtain rfl := Option.some.inj hc
        exact hk
      · exact hlast.imp_left (lastKeeps_cons hk)
    · have hsnoc : pending ++ b :: bs = pending ++ [b] ++ bs := by simp
      rw [hsnoc] at hfirst hlast
      exact ih hgap (chain_append.2 ⟨x', y', hpending, .cons hb .nil⟩) hrest hfirst hlast

theorem spread_hunks {script : List Edit}
    (h : Chain (Edit.Covers old new) script 0 0 old.size new.size) :
    Spread old new (hunks script) 0 0 := by
  obtain ⟨n, hgap, hfront, hfirst⟩ := covers_trimFront (covers_blocks h)
  obtain ⟨m, x, y, hcovers, htail, hx, hy, hlast⟩ := covers_trimBack hfront
  refine spread_cutHunks hgap .nil hcovers htail hx hy ?_ hlast
  refine hfirst.imp firstKeeps_trimBack ?_
  rintro rfl
  exact ⟨rfl, rfl⟩

end CommandForge.Patch
