import CommandForge.Proofs.Command.TypeSpelling
/-!
# Slices of type texts

The text inside an optional spelling is cut out at two byte offsets. They are found on a copy in
small letters, so nothing in the cut itself says that they fit the text. `IsSlice` says when they
do, by Lean's own account of UTF-8: they are in order, within the text, and between characters.
`slice?` succeeds exactly then (`slice?_eq_some_iff`), and reading a type text takes no other
slice. It goes on in a strictly shorter text each time and ends (`parse_slices_fit`).
-/

namespace CommandForge

open Text (trim)

namespace FieldType

/-! ## Bytes -/

theorem utf8ByteSize_ofList (cs : List Char) : (String.ofList cs).utf8ByteSize = byteLength cs := by
  induction cs with
  | nil => rfl
  | cons c cs ih =>
    rw [← List.singleton_append, String.ofList_append, String.utf8ByteSize_append, ih,
      List.singleton_append, byteLength]
    simp

theorem byteLength_le_of_sublist {as bs : List Char} (h : as.Sublist bs) :
    byteLength as ≤ byteLength bs := by
  induction h with
  | slnil => exact Nat.le_refl _
  | cons b _ ih =>
    rw [byteLength]
    omega
  | cons_cons b _ ih =>
    rw [byteLength, byteLength]
    omega

/-- Of two starts of a text, the one with fewer bytes starts the other. -/
theorem prefix_of_byteLength_le {as bs cs : List Char} (ha : as <+: cs) (hb : bs <+: cs)
    (hle : byteLength as ≤ byteLength bs) : as <+: bs := by
  rcases List.prefix_or_prefix_of_prefix ha hb with h | ⟨more, rfl⟩
  · exact h
  · cases more with
    | nil => exact ⟨[], by rw [List.append_nil, List.append_nil]⟩
    | cons c more =>
      have hpos := c.utf8Size_pos
      rw [byteLength_append, byteLength] at hle
      omega

theorem exists_append_of_dropBytes? {n : Nat} {cs rest : List Char}
    (h : dropBytes? n cs = some rest) : ∃ before, cs = before ++ rest ∧ byteLength before = n := by
  fun_induction dropBytes? n cs with
  | case1 cs => exact ⟨[], Option.some.inj h, rfl⟩
  | case2 => cases h
  | case3 n c cs hc ih =>
    obtain ⟨before, rfl, hbefore⟩ := ih h
    refine ⟨c :: before, rfl, ?_⟩
    rw [byteLength, hbefore]
    omega
  | case4 => cases h

theorem exists_append_of_takeBytes? {n : Nat} {cs part : List Char}
    (h : takeBytes? n cs = some part) : ∃ behind, cs = part ++ behind ∧ byteLength part = n := by
  fun_induction takeBytes? n cs generalizing part with
  | case1 cs =>
    obtain rfl := Option.some.inj h
    exact ⟨cs, rfl, rfl⟩
  | case2 => cases h
  | case3 n c cs hc ih =>
    obtain ⟨rest, hrest, rfl⟩ := Option.map_eq_some_iff.1 h
    obtain ⟨behind, rfl, hbytes⟩ := ih hrest
    refine ⟨behind, rfl, ?_⟩
    rw [byteLength, hbytes]
    omega
  | case4 => cases h

/-- A slice parts the text in three. -/
theorem exists_append_of_slice? {cs part : List Char} {start stop : Nat}
    (h : slice? cs start stop = some part) :
    ∃ before behind, cs = before ++ (part ++ behind) ∧ byteLength before = start ∧
      byteLength before + byteLength part = stop := by
  rw [slice?] at h
  split at h
  · rename_i hle
    obtain ⟨rest, hdrop, htake⟩ := Option.bind_eq_some_iff.1 h
    obtain ⟨before, rfl, hbefore⟩ := exists_append_of_dropBytes? hdrop
    obtain ⟨behind, rfl, hpart⟩ := exists_append_of_takeBytes? htake
    exact ⟨before, behind, rfl, hbefore, by omega⟩
  · cases h

/-! ## Offsets between characters -/

theorem isValid_iff_exists_append {cs : List Char} {n : Nat} :
    (⟨n⟩ : String.Pos.Raw).IsValid (String.ofList cs) ↔
      ∃ before behind, cs = before ++ behind ∧ byteLength before = n := by
  rw [String.Pos.Raw.isValid_iff_exists_append]
  constructor
  · rintro ⟨before, behind, hcs, hn⟩
    refine ⟨before.toList, behind.toList, ?_, ?_⟩
    · rw [← String.toList_append, ← hcs, String.toList_ofList]
    · rw [← utf8ByteSize_ofList, String.ofList_toList]
      exact (congrArg String.Pos.Raw.byteIdx hn).symm
  · rintro ⟨before, behind, rfl, rfl⟩
    refine ⟨String.ofList before, String.ofList behind, String.ofList_append, ?_⟩
    rw [← utf8ByteSize_ofList]
    rfl

/-- `part` stands in `s` from the byte `start` up to the byte `stop`. The offsets are in order and
within `s`, and neither one cuts a character. -/
structure IsSlice (s : String) (start stop : Nat) (part : String) : Prop where
  start_le : start ≤ stop
  stop_le : stop ≤ s.utf8ByteSize
  start_isValid : (⟨start⟩ : String.Pos.Raw).IsValid s
  stop_isValid : (⟨stop⟩ : String.Pos.Raw).IsValid s
  bytes : part.toByteArray = s.toByteArray.extract start stop

theorem IsSlice.unique {s part part' : String} {start stop : Nat} (h : IsSlice s start stop part)
    (h' : IsSlice s start stop part') : part = part' :=
  String.toByteArray_inj.1 (h.bytes.trans h'.bytes.symm)

theorem isSlice_append (before part behind : List Char) :
    IsSlice (String.ofList (before ++ (part ++ behind))) (byteLength before)
      (byteLength before + byteLength part) (String.ofList part) := by
  have hsize : ∀ cs : List Char, (String.ofList cs).toByteArray.size = byteLength cs := by
    intro cs
    rw [String.size_toByteArray, utf8ByteSize_ofList]
  refine ⟨Nat.le_add_right .., ?_, ?_, ?_, ?_⟩
  · rw [utf8ByteSize_ofList, byteLength_append, byteLength_append]
    omega
  · exact isValid_iff_exists_append.2 ⟨before, part ++ behind, rfl, rfl⟩
  · refine isValid_iff_exists_append.2 ⟨before ++ part, behind, ?_, byteLength_append ..⟩
    rw [List.append_assoc]
  · rw [String.ofList_append, String.ofList_append, String.toByteArray_append,
      String.toByteArray_append, ← hsize before, ← hsize part]
    have hbehind := ByteArray.extract_append_size_add (a := (String.ofList before).toByteArray)
      (b := (String.ofList part).toByteArray ++ (String.ofList behind).toByteArray)
      (i := 0) (j := (String.ofList part).toByteArray.size)
    rw [Nat.add_zero] at hbehind
    rw [hbehind, ByteArray.extract_append_eq_left rfl]

/-- A slice is given exactly where the offsets fit the text, and then it is what stands there. -/
theorem slice?_eq_some_iff {cs part : List Char} {start stop : Nat} :
    slice? cs start stop = some part ↔
      IsSlice (String.ofList cs) start stop (String.ofList part) := by
  constructor
  · intro h
    obtain ⟨before, behind, rfl, rfl, rfl⟩ := exists_append_of_slice? h
    exact isSlice_append before part behind
  · intro h
    obtain ⟨before, rest, hstart, rfl⟩ := isValid_iff_exists_append.1 h.start_isValid
    obtain ⟨upto, behind, hstop, rfl⟩ := isValid_iff_exists_append.1 h.stop_isValid
    -- Both offsets end a prefix of the text, and the first of these starts the second.
    obtain ⟨mid, rfl⟩ : before <+: upto :=
      prefix_of_byteLength_le ⟨rest, hstart.symm⟩ ⟨behind, hstop.symm⟩ h.start_le
    rw [List.append_assoc] at hstop
    rw [byteLength_append] at h ⊢
    have hmid := isSlice_append before mid behind
    rw [← hstop] at hmid
    rw [String.ofList_injective (h.unique hmid), hstop]
    exact slice?_append before mid behind

/-- An offset in the middle of a character fits no slice. -/
example : slice? "Optional[é]".toList 9 11 = some ['é'] ∧
    slice? "Optional[é]".toList 9 10 = none := by decide

/-! ## The cut of an optional spelling -/

/-- The offsets for an optional spelling fit the text, and cut out what it encloses. -/
theorem exists_slice_of_optionalSpan? {cs : List Char} {start stop : Nat}
    (h : optionalSpan? cs = some (start, stop)) :
    ∃ inner, slice? cs start stop = some inner ∧ Encloses cs inner := by
  obtain ⟨inner, hinner⟩ := exists_encloses_of_optionalSpan? h
  refine ⟨inner, ?_, hinner⟩
  have hcut := optionalInner?_of_encloses hinner
  rw [optionalInner?, h] at hcut
  exact hcut

theorem optionalInner?_eq_none_iff {cs : List Char} :
    optionalInner? cs = none ↔ optionalSpan? cs = none := by
  cases h : optionalSpan? cs with
  | none => simp [optionalInner?, h]
  | some span =>
    obtain ⟨inner, hslice, -⟩ := exists_slice_of_optionalSpan? h
    simp [optionalInner?, h, hslice]

/-- A cut goes on in fewer bytes. -/
theorem byteLength_lt_of_slice? {text inner : List Char} {start stop : Nat}
    (hspan : optionalSpan? (trim text) = some (start, stop))
    (hslice : slice? (trim text) start stop = some inner) : byteLength inner < byteLength text := by
  have hstart := pos_of_optionalSpan? hspan
  obtain ⟨before, behind, htext, rfl, -⟩ := exists_append_of_slice? hslice
  have htrim := byteLength_le_of_sublist (Text.trim_sublist text)
  rw [htext, byteLength_append, byteLength_append] at htrim
  omega

/-! ## Readings -/

/-- Reading `text` gives the type `ty` and is called on the texts `calls`, with `text` first. Where
the offsets of a cut do not fit there is no rule, so that a reading never goes on behind one. -/
inductive Reads : List Char → List (List Char) → FieldType → Prop
  | name {text} (h : optionalSpan? (trim text) = none) : Reads text [text] (ofName (trim text))
  | cut {text inner calls ty start stop} (hspan : optionalSpan? (trim text) = some (start, stop))
      (hslice : IsSlice (String.ofList (trim text)) start stop (String.ofList inner))
      (hinner : Reads inner calls ty) : Reads text (text :: calls) (.optional ty)

namespace Reads

variable {text : List Char} {calls calls' : List (List Char)} {ty ty' : FieldType}

theorem exists_cons (h : Reads text calls ty) : ∃ rest, calls = text :: rest := by
  cases h with
  | name => exact ⟨[], rfl⟩
  | cut => exact ⟨_, rfl⟩

theorem unique (h : Reads text calls ty) (h' : Reads text calls' ty') :
    calls' = calls ∧ ty' = ty := by
  induction h generalizing calls' ty' with
  | name hnone =>
    cases h' with
    | name => exact ⟨rfl, rfl⟩
    | cut hspan => exact absurd (hnone.symm.trans hspan) (by simp)
  | cut hspan hslice _ ih =>
    cases h' with
    | name hnone => exact absurd (hnone.symm.trans hspan) (by simp)
    | cut hspan' hslice' hinner' =>
      obtain ⟨rfl, rfl⟩ := Prod.mk.inj (Option.some.inj (hspan.symm.trans hspan'))
      obtain rfl := String.ofList_injective (hslice.unique hslice')
      obtain ⟨rfl, rfl⟩ := ih hinner'
      exact ⟨rfl, rfl⟩

/-- Every call is on a shorter text than the one before. -/
theorem isChain (h : Reads text calls ty) :
    calls.IsChain fun text inner => byteLength inner < byteLength text := by
  induction h with
  | name => exact .singleton _
  | cut hspan hslice hinner ih =>
    obtain ⟨rest, rfl⟩ := hinner.exists_cons
    exact .cons_cons (byteLength_lt_of_slice? hspan (slice?_eq_some_iff.2 hslice)) ih

end Reads

/-- There is a reading of every text. -/
theorem exists_reads (text : List Char) : ∃ calls, Reads text calls (parseChars text) := by
  fun_induction parseChars text with
  | case1 text inner hinner ih =>
    obtain ⟨calls, hcalls⟩ := ih
    rw [optionalInner?] at hinner
    split at hinner
    · rename_i start stop hspan
      exact ⟨text :: calls, .cut hspan (slice?_eq_some_iff.1 hinner) hcalls⟩
    · cases hinner
  | case2 text hnone => exact ⟨[text], .name (optionalInner?_eq_none_iff.1 hnone)⟩

/-- **Reading a type text takes only slices that fit, and ends.** Every text has one reading, and
that gives its type. In each text that the reading is called on, the offsets of the cut are in
order, within the trimmed text and between its characters, and each call is on a strictly shorter
text than the one before. -/
theorem parse_slices_fit (s : String) :
    ∃ calls, Reads s.toList calls (parse s) ∧
      (∀ calls' ty, Reads s.toList calls' ty → calls' = calls ∧ ty = parse s) ∧
      (∀ text ∈ calls, ∀ start stop, optionalSpan? (trim text) = some (start, stop) →
        ∃ inner, IsSlice (String.ofList (trim text)) start stop (String.ofList inner)) ∧
      calls.IsChain fun text inner => byteLength inner < byteLength text := by
  obtain ⟨calls, hreads⟩ := exists_reads s.toList
  refine ⟨calls, hreads, fun calls' ty h => hreads.unique h, ?_, hreads.isChain⟩
  intro text _ start stop hspan
  obtain ⟨inner, hslice, -⟩ := exists_slice_of_optionalSpan? hspan
  exact ⟨inner, slice?_eq_some_iff.1 hslice⟩

end FieldType

end CommandForge
