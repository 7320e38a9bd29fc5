import CommandForge.Patch.Tidy
import CommandForge.Proofs.Patch.Script
/-!
# Tidied scripts

Tidying a script keeps it one that turns the old list into the new one. Each step of a block, over
a part of a kept edit, past an edit of the other kind or into one of its own, changes a few edits
next to each other and no more (`covers_slideFront`, `covers_slideEnd`, `covers_swap`,
`covers_merge`); hence sliding, settling and tidying do (`covers_toFront`, `covers_toEnd`,
`covers_tidy`).
-/

namespace CommandForge.Patch

variable {α : Type} {old new : Array α} {i j x y : Nat}

namespace Edit

variable {e f : Edit} {i' j' : Nat}

theorem Covers.size_pos (h : e.Covers old new i j x y) : 0 < e.size := by
  rw [size]
  cases h with
  | keep _ pos => omega
  | delete _ pos => omega
  | insert _ pos => omega

/-- A deletion and an insertion change places: each touches one side only. -/
theorem covers_swap (he : e.kind ≠ .keep) (hf : f.kind ≠ .keep) (hne : e.kind ≠ f.kind)
    (h : Chain (Covers old new) [e, f] i j x y) : Chain (Covers old new) [f, e] i j x y := by
  obtain ⟨i₁, j₁, h₁, hf₁⟩ := chain_cons.1 h
  obtain ⟨i₂, j₂, h₂, hnil⟩ := chain_cons.1 hf₁
  obtain ⟨rfl, rfl⟩ := chain_nil.1 hnil
  cases h₁ with
  | keep kind => exact absurd kind he
  | delete kind pos len oldStart oldStop newStop =>
    cases h₂ with
    | keep kind' => exact absurd kind' hf
    | delete kind' => exact absurd (kind.trans kind'.symm) hne
    | insert kind' pos' len' newStart' oldStop' newStop' =>
      refine .cons (.insert kind' pos' len' (newStart'.trans newStop) rfl rfl)
        (.cons (.delete kind pos len oldStart ?_ ?_) .nil)
      · omega
      · omega
  | insert kind pos len newStart oldStop newStop =>
    cases h₂ with
    | keep kind' => exact absurd kind' hf
    | insert kind' => exact absurd (kind.trans kind'.symm) hne
    | delete kind' pos' len' oldStart' oldStop' newStop' =>
      refine .cons (.delete kind' pos' len' (oldStart'.trans oldStop) rfl rfl)
        (.cons (.insert kind pos len newStart ?_ ?_) .nil)
      · omega
      · omega

theorem covers_merge (he : e.kind ≠ .keep) (hkind : e.kind = f.kind)
    (h : Chain (Covers old new) [e, f] i j x y) :
    (e.lengthen (Focus.touched f)).Covers old new i j x y := by
  obtain ⟨i₁, j₁, h₁, hf₁⟩ := chain_cons.1 h
  obtain ⟨i₂, j₂, h₂, hnil⟩ := chain_cons.1 hf₁
  obtain ⟨rfl, rfl⟩ := chain_nil.1 hnil
  cases h₁ with
  | keep kind => exact absurd kind he
  | delete kind pos len oldStart oldStop newStop =>
    cases h₂ with
    | keep kind' => exact absurd (hkind.trans kind') he
    | insert kind' =>
      rw [kind, kind'] at hkind
      cases hkind
    | delete kind' pos' len' oldStart' oldStop' newStop' =>
      simp only [lengthen, Focus.touched, kind, kind']
      refine .delete rfl ?_ len oldStart ?_ ?_
      · simp only
        omega
      · simp only
        omega
      · omega
  | insert kind pos len newStart oldStop newStop =>
    cases h₂ with
    | keep kind' => exact absurd (hkind.trans kind') he
    | delete kind' =>
      rw [kind, kind'] at hkind
      cases hkind
    | insert kind' pos' len' newStart' oldStop' newStop' =>
      simp only [lengthen, Focus.touched, kind, kind']
      refine .insert rfl ?_ len newStart ?_ ?_
      · simp only
        omega
      · omega
      · simp only
        omega

end Edit

theorem chain_reverse_cons {σ : Type} {covers : σ → Nat → Nat → Nat → Nat → Prop} {s : σ}
    {ss : List σ} : Chain covers (s :: ss).reverse i j x y ↔
      ∃ i' j', Chain covers ss.reverse i j i' j' ∧ covers s i' j' x y := by
  rw [List.reverse_cons, chain_append]
  constructor
  · rintro ⟨i', j', hss, hs⟩
    obtain ⟨x', y', hs, hnil⟩ := chain_cons.1 hs
    obtain ⟨rfl, rfl⟩ := chain_nil.1 hnil
    exact ⟨i', j', hss, hs⟩
  · rintro ⟨i', j', hss, hs⟩
    exact ⟨i', j', hss, .cons hs .nil⟩

namespace Focus

variable {before after rest : List Edit} {this prev next : Edit} {s a b : Nat}

/-! ## Kept items around a block -/

/-- What is left of a kept edit is no edit at all when nothing is left. -/
theorem covers_unlessEmpty {e : Edit} {edits : List Edit} (hkind : e.kind = .keep)
    (hlen : e.newLen = e.oldLen) (hold : e.oldStart = i) (hnew : e.newStart = j)
    (hagree : Agree old new i j e.oldLen)
    (h : Chain (Edit.Covers old new) edits (i + e.oldLen) (j + e.oldLen) x y) :
    Chain (Edit.Covers old new) (unlessEmpty e edits) i j x y := by
  unfold unlessEmpty
  split
  · rename_i hsize
    rw [Edit.size] at hsize
    have hzero : e.oldLen = 0 := by omega
    rwa [hzero] at h
  · rename_i hsize
    rw [Edit.size] at hsize
    exact .cons (.keep hkind (by omega) hlen hold hnew hagree rfl rfl) h

theorem reverse_unlessEmpty_append (e : Edit) (edits ts : List Edit) :
    (unlessEmpty e edits).reverse ++ ts = edits.reverse ++ unlessEmpty e ts := by
  unfold unlessEmpty
  split
  · rfl
  · rw [List.reverse_cons, List.append_assoc, List.singleton_append]

theorem covers_keepBehind (hs : 0 < s) (hi : s ≤ prev.oldEnd) (hj : s ≤ this.newEnd)
    (hagree : Agree old new (prev.oldEnd - s) (this.newEnd - s) s)
    (h : Chain (Edit.Covers old new) after prev.oldEnd this.newEnd x y) :
    Chain (Edit.Covers old new) (keepBehind prev this s after) (prev.oldEnd - s) (this.newEnd - s)
      x y := by
  have hold : prev.oldEnd = prev.oldEnd - s + s := by omega
  have hnew : this.newEnd = this.newEnd - s + s := by omega
  have hkept : Edit.Covers old new (.keeping (prev.oldEnd - s) (this.newEnd - s) s)
      (prev.oldEnd - s) (this.newEnd - s) prev.oldEnd this.newEnd :=
    .keep rfl hs rfl rfl rfl hagree hold hnew
  unfold keepBehind
  split
  · rename_i next rest
    split
    · rename_i hk
      obtain ⟨i', j', hnext, hrest⟩ := chain_cons.1 h
      cases hnext with
      | keep kind pos len oldStart newStart agree oldStop newStop =>
        refine .cons (.keep ?_ ?_ ?_ ?_ ?_ ?_ ?_ ?_) hrest
        all_goals simp only [Edit.lengthen, Edit.back, kind]
        · omega
        · omega
        · omega
        · omega
        · rw [Nat.add_comm]
          refine hagree.append ?_
          rwa [← hold, ← hnew]
        · omega
        · omega
      | delete kind => exact absurd (hk.symm.trans kind) (by decide)
      | insert kind => exact absurd (hk.symm.trans kind) (by decide)
    · exact .cons hkept h
  · exact .cons hkept h

theorem covers_keepBefore (hs : 0 < s) (hi : next.oldStart = i) (hj : this.newStart = j)
    (hagree : Agree old new i j s) (h : Chain (Edit.Covers old new) before.reverse a b i j) :
    Chain (Edit.Covers old new) (keepBefore this next s before).reverse a b (i + s) (j + s) := by
  have hkept : Edit.Covers old new (.keeping next.oldStart this.newStart s) i j (i + s) (j + s) :=
    .keep rfl hs rfl hi hj hagree rfl rfl
  unfold keepBefore
  split
  · rename_i prev rest
    split
    · rename_i hk
      obtain ⟨i', j', hrest, hprev⟩ := chain_reverse_cons.1 h
      refine chain_reverse_cons.2 ⟨i', j', hrest, ?_⟩
      cases hprev with
      | keep kind pos len oldStart newStart agree oldStop newStop =>
        rw [oldStop, newStop] at hagree
        simp only [Edit.lengthen, kind]
        refine .keep rfl ?_ ?_ oldStart newStart (agree.append hagree) ?_ ?_
        all_goals simp only
        all_goals omega
      | delete kind => exact absurd (hk.symm.trans kind) (by decide)
      | insert kind => exact absurd (hk.symm.trans kind) (by decide)
    · exact chain_reverse_cons.2 ⟨i, j, h, hkept⟩
  · exact chain_reverse_cons.2 ⟨i, j, h, hkept⟩

/-! ## Steps of a block -/

/-- The edits before, at and behind the focus cover the two ranges. -/
def Covers (old new : Array α) (f : Focus) (a b x y : Nat) : Prop :=
  Chain (Edit.Covers old new) (f.before.reverse ++ f.this :: f.after) a b x y

theorem covers_iff {f : Focus} : f.Covers old new a b x y ↔
    ∃ i j i' j', Chain (Edit.Covers old new) f.before.reverse a b i j ∧
      f.this.Covers old new i j i' j' ∧ Chain (Edit.Covers old new) f.after i' j' x y := by
  rw [Covers, chain_append]
  constructor
  · rintro ⟨i, j, hbefore, h⟩
    obtain ⟨i', j', hthis, hafter⟩ := chain_cons.1 h
    exact ⟨i, j, i', j', hbefore, hthis, hafter⟩
  · rintro ⟨i, j, i', j', hbefore, hthis, hafter⟩
    exact ⟨i, j, hbefore, .cons hthis hafter⟩

theorem covers_cons_before : Covers old new ⟨prev :: rest, this, after⟩ a b x y ↔
    ∃ i j i' j', Chain (Edit.Covers old new) rest.reverse a b i j ∧
      Chain (Edit.Covers old new) [prev, this] i j i' j' ∧
      Chain (Edit.Covers old new) after i' j' x y := by
  have hsplit : (prev :: rest).reverse ++ this :: after =
      rest.reverse ++ ([prev, this] ++ after) := by simp
  rw [Covers, hsplit, chain_append]
  constructor
  · rintro ⟨i, j, hrest, h⟩
    obtain ⟨i', j', hpair, hafter⟩ := chain_append.1 h
    exact ⟨i, j, i', j', hrest, hpair, hafter⟩
  · rintro ⟨i, j, i', j', hrest, hpair, hafter⟩
    exact ⟨i, j, hrest, chain_append.2 ⟨i', j', hpair, hafter⟩⟩

theorem covers_cons_after : Covers old new ⟨before, this, next :: rest⟩ a b x y ↔
    ∃ i j i' j', Chain (Edit.Covers old new) before.reverse a b i j ∧
      Chain (Edit.Covers old new) [this, next] i j i' j' ∧
      Chain (Edit.Covers old new) rest i' j' x y := by
  have hsplit : before.reverse ++ this :: next :: rest =
      before.reverse ++ ([this, next] ++ rest) := by simp
  rw [Covers, hsplit, chain_append]
  constructor
  · rintro ⟨i, j, hbefore, h⟩
    obtain ⟨i', j', hpair, hrest⟩ := chain_append.1 h
    exact ⟨i, j, i', j', hbefore, hpair, hrest⟩
  · rintro ⟨i, j, i', j', hbefore, hpair, hrest⟩
    exact ⟨i, j, hbefore, chain_append.2 ⟨i', j', hpair, hrest⟩⟩

theorem covers_slideFront (hprev : prev.kind = .keep) (hthis : this.kind ≠ .keep) (hs : 0 < s)
    (hold : s ≤ prev.oldLen) (hnew : s ≤ this.newLen)
    (hagree : Agree old new (prev.oldEnd - s) (this.newEnd - s) s)
    (h : Covers old new ⟨prev :: rest, this, after⟩ a b x y) :
    Covers old new ⟨unlessEmpty (prev.shorten s) rest, this.back s, keepBehind prev this s after⟩
      a b x y := by
  obtain ⟨i, j, i', j', hrest, hpair, hafter⟩ := covers_cons_before.1 h
  obtain ⟨i₁, j₁, hp, hpair⟩ := chain_cons.1 hpair
  obtain ⟨i₂, j₂, ht, hnil⟩ := chain_cons.1 hpair
  obtain ⟨rfl, rfl⟩ := chain_nil.1 hnil
  cases hp with
  | delete kind => exact absurd (hprev.symm.trans kind) (by decide)
  | insert kind => exact absurd (hprev.symm.trans kind) (by decide)
  | keep kind pos len oldStart newStart agree oldStop newStop =>
    cases ht with
    | keep kind' => exact absurd kind' hthis
    | delete kind' pos' len' => exact absurd hnew (by omega)
    | insert kind' pos' len' newStart' oldStop' newStop' =>
      have hi : i' = prev.oldEnd := by
        rw [Edit.oldEnd]
        omega
      have hj : j' = this.newEnd := by
        rw [Edit.newEnd]
        omega
      rw [hi, hj] at hafter
      have hbehind := covers_keepBehind hs (by omega) (by omega) hagree hafter
      rw [Covers, reverse_unlessEmpty_append]
      refine chain_append.2 ⟨i, j, hrest, covers_unlessEmpty hprev ?_ oldStart newStart
        (agree.mono (Nat.sub_le ..)) (.cons (.insert kind' pos' len' ?_ ?_ ?_) hbehind)⟩
      all_goals simp only [Edit.shorten, Edit.back]
      all_goals omega

theorem covers_slideEnd (hnext : next.kind = .keep) (hthis : this.kind ≠ .keep) (hs : 0 < s)
    (hold : s ≤ next.oldLen) (hnew : s ≤ this.newLen)
    (hagree : Agree old new next.oldStart this.newStart s)
    (h : Covers old new ⟨before, this, next :: rest⟩ a b x y) :
    Covers old new ⟨keepBefore this next s before, this.forth s,
      unlessEmpty ((next.shorten s).forth s) rest⟩ a b x y := by
  obtain ⟨i, j, i', j', hbefore, hpair, hrest⟩ := covers_cons_after.1 h
  obtain ⟨i₁, j₁, ht, hpair⟩ := chain_cons.1 hpair
  obtain ⟨i₂, j₂, hn, hnil⟩ := chain_cons.1 hpair
  obtain ⟨rfl, rfl⟩ := chain_nil.1 hnil
  cases hn with
  | delete kind => exact absurd (hnext.symm.trans kind) (by decide)
  | insert kind => exact absurd (hnext.symm.trans kind) (by decide)
  | keep kind pos len oldStart newStart agree oldStop newStop =>
    cases ht with
    | keep kind' => exact absurd kind' hthis
    | delete kind' pos' len' => exact absurd hnew (by omega)
    | insert kind' pos' len' newStart' oldStop' newStop' =>
      rw [oldStart, oldStop', newStart'] at hagree
      have hkept := covers_keepBefore hs (oldStart.trans oldStop') newStart' hagree hbefore
      refine covers_iff.2 ⟨i + s, j + s, i + s, j + s + this.newLen, hkept, ?_, ?_⟩
      · refine .insert kind' pos' len' ?_ rfl rfl
        simp only [Edit.forth]
        omega
      · refine covers_unlessEmpty hnext ?_ ?_ ?_ ?_ ?_
        · simp only [Edit.forth, Edit.shorten]
          omega
        · simp only [Edit.forth, Edit.shorten]
          omega
        · simp only [Edit.forth, Edit.shorten]
          omega
        · have htail := agree.drop s
          have hj : j₁ + s = j + s + this.newLen := by omega
          rwa [hj, oldStop'] at htail
        · have hi : i' = i + s + (next.oldLen - s) := by omega
          have hj : j' = j + s + this.newLen + (next.oldLen - s) := by omega
          rwa [hi, hj] at hrest

/-! ## Runs -/

variable [DecidableEq α]

theorem covers_toFront (hthis : this.kind ≠ .keep)
    (h : Covers old new ⟨before, this, after⟩ a b x y) :
    (toFront old new before this after).Covers old new a b x y := by
  fun_induction toFront old new before this after with
  | case1 => exact h
  | case2 this after prev rest hprev hs s ih =>
    have hle := agreeBefore_le old new prev.oldStart this.newStart prev.oldLen this.newLen
    have hagree := agree_agreeBefore old new prev.oldStart this.newStart prev.oldLen this.newLen
    exact ih hthis (covers_slideFront hprev hthis hs hle.1 hle.2 hagree h)
  | case3 this after prev rest hprev hs hsize =>
    -- No edit of a covering script is about no items.
    obtain ⟨i, j, i', j', -, hpair, -⟩ := covers_cons_before.1 h
    obtain ⟨i₁, j₁, hp, -⟩ := chain_cons.1 hpair
    exact absurd hsize (Nat.ne_of_gt hp.size_pos)
  | case4 => exact h
  | case5 this after prev rest hprev hkind ih =>
    obtain ⟨i, j, i', j', hrest, hpair, hafter⟩ := covers_cons_before.1 h
    refine ih (by simpa using hprev) (covers_iff.2 ⟨i, j, i', j', hrest, ?_, hafter⟩)
    exact Edit.covers_merge hprev hkind hpair
  | case6 this after prev rest hprev hkind ih =>
    obtain ⟨i, j, i', j', hrest, hpair, hafter⟩ := covers_cons_before.1 h
    refine ih hthis (covers_cons_after.2 ⟨i, j, i', j', hrest, ?_, hafter⟩)
    exact Edit.covers_swap hprev hthis hkind hpair

theorem covers_toEnd (hthis : this.kind ≠ .keep)
    (h : Covers old new ⟨before, this, after⟩ a b x y) :
    (toEnd old new before this after).Covers old new a b x y := by
  fun_induction toEnd old new before this after with
  | case1 => exact h
  | case2 before this next rest hnext hs s ih =>
    have hle := agreeAfter_le old new next.oldStart this.newStart next.oldLen this.newLen
    have hagree := agree_agreeAfter old new next.oldStart this.newStart next.oldLen this.newLen
    exact ih hthis (covers_slideEnd hnext hthis hs hle.1 hle.2 hagree h)
  | case3 before this next rest hnext hs hsize =>
    obtain ⟨i, j, i', j', -, hpair, -⟩ := covers_cons_after.1 h
    obtain ⟨i₁, j₁, -, hpair⟩ := chain_cons.1 hpair
    obtain ⟨i₂, j₂, hn, -⟩ := chain_cons.1 hpair
    exact absurd hsize (Nat.ne_of_gt hn.size_pos)
  | case4 => exact h
  | case5 before this next rest hnext hkind ih =>
    obtain ⟨i, j, i', j', hbefore, hpair, hrest⟩ := covers_cons_after.1 h
    refine ih (by simpa using hthis) (covers_iff.2 ⟨i, j, i', j', hbefore, ?_, hrest⟩)
    exact Edit.covers_merge hthis hkind.symm hpair
  | case6 before this next rest hnext hkind ih =>
    obtain ⟨i, j, i', j', hbefore, hpair, hrest⟩ := covers_cons_after.1 h
    refine ih hthis (covers_cons_before.2 ⟨i, j, i', j', hbefore, ?_, hrest⟩)
    exact Edit.covers_swap hthis hnext (Ne.symm hkind) hpair

theorem covers_settle {f : Focus} (hthis : f.this.kind ≠ .keep) (h : f.Covers old new a b x y) :
    (f.settle old new).Covers old new a b x y := by
  have hkind : (toFront old new f.before f.this f.after).this.kind = f.this.kind :=
    (countKind_toFront old new hthis).1
  exact covers_toEnd (hkind ▸ hthis) (covers_toFront hthis h)

end Focus

variable [DecidableEq α] {a b : Nat}

/-- The passed edits and those to come cover the ranges at every step, hence the outcome does. -/
theorem covers_tidyKind {kind : { k : EditKind // k ≠ .keep }} {done todo : List Edit}
    (h : Chain (Edit.Covers old new) (done.reverse ++ todo) a b x y) :
    Chain (Edit.Covers old new) (tidyKind kind old new done todo) a b x y := by
  fun_induction tidyKind kind old new done todo with
  | case1 => rwa [List.append_nil] at h
  | case2 done e rest hkind f ih =>
    apply ih
    have hsettled : f.Covers old new a b x y := Focus.covers_settle (by rw [hkind]; exact kind.2) h
    rwa [List.reverse_cons, List.append_assoc, List.singleton_append]
  | case3 done e rest hkind ih =>
    apply ih
    rwa [List.reverse_cons, List.append_assoc, List.singleton_append]

theorem covers_tidy {script : List Edit} (h : Chain (Edit.Covers old new) script a b x y) :
    Chain (Edit.Covers old new) (tidy old new script) a b x y :=
  covers_tidyKind (covers_tidyKind h)

end CommandForge.Patch
