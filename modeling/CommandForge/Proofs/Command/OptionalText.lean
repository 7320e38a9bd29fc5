import Mathlib.Data.List.Basic
import CommandForge.Command.FieldType
import CommandForge.Proofs.Text.Ascii
/-!
# Optional spellings

An optional spelling encloses the text of another type (`Encloses`), and that text is what is cut
out of it (`optionalInner?_eq_some_iff`). The cut is made at byte offsets that are read off a copy
in small letters. They fit the text itself, since making ASCII letters small changes no size.
-/

namespace CommandForge

namespace FieldType

open Text (lowerAscii)

/-! ## Cutting -/

theorem byteLength_append (as bs : List Char) :
    byteLength (as ++ bs) = byteLength as + byteLength bs := by
  induction as with
  | nil => simp [byteLength]
  | cons a as ih =>
    simp only [List.cons_append, byteLength, ih]
    omega

theorem byteLength_lowerAscii (cs : List Char) : byteLength (lowerAscii cs) = byteLength cs := by
  induction cs with
  | nil => rfl
  | cons c cs ih =>
    rw [lowerAscii] at ih
    rw [lowerAscii, List.map_cons, byteLength, byteLength, ih, utf8Size_toLower]

theorem dropBytes?_cons (c : Char) (cs : List Char) (n : Nat) :
    dropBytes? (c.utf8Size + n) (c :: cs) = dropBytes? n cs := by
  obtain ⟨k, hk⟩ := Nat.exists_eq_add_one.2 c.utf8Size_pos
  have hn : c.utf8Size + n = k + n + 1 := by omega
  rw [hn, dropBytes?, if_pos (by omega), ← hn, Nat.add_sub_cancel_left]

theorem takeBytes?_cons (c : Char) (cs : List Char) (n : Nat) :
    takeBytes? (c.utf8Size + n) (c :: cs) = (takeBytes? n cs).map (c :: ·) := by
  obtain ⟨k, hk⟩ := Nat.exists_eq_add_one.2 c.utf8Size_pos
  have hn : c.utf8Size + n = k + n + 1 := by omega
  rw [hn, takeBytes?, if_pos (by omega), ← hn, Nat.add_sub_cancel_left]

theorem dropBytes?_append (as bs : List Char) :
    dropBytes? (byteLength as) (as ++ bs) = some bs := by
  induction as with
  | nil => simp [byteLength, dropBytes?]
  | cons a as ih => rw [byteLength, List.cons_append, dropBytes?_cons, ih]

theorem takeBytes?_append (as bs : List Char) :
    takeBytes? (byteLength as) (as ++ bs) = some as := by
  induction as with
  | nil => simp [byteLength, takeBytes?]
  | cons a as ih => rw [byteLength, List.cons_append, takeBytes?_cons, ih, Option.map_some]

/-- The slice between two texts is what stands between them. -/
theorem slice?_append (as bs cs : List Char) :
    slice? (as ++ (bs ++ cs)) (byteLength as) (byteLength as + byteLength bs) = some bs := by
  rw [slice?, if_pos (Nat.le_add_right ..), dropBytes?_append, Nat.add_sub_cancel_left]
  exact takeBytes?_append bs cs

/-! ## Prefixes in any case -/

theorem startsWith_lowerAscii_iff {pat : String} {cs : List Char} :
    startsWith pat (lowerAscii cs) = true ↔
      ∃ head rest, cs = head ++ rest ∧ lowerAscii head = pat.toList := by
  rw [startsWith, List.isPrefixOf_iff_prefix]
  constructor
  · rintro ⟨rest, hrest⟩
    obtain ⟨head, tail, rfl, hhead, -⟩ := List.map_eq_append_iff.1 hrest.symm
    exact ⟨head, tail, rfl, hhead⟩
  · rintro ⟨head, rest, rfl, hhead⟩
    exact ⟨lowerAscii rest, by rw [← hhead, lowerAscii, lowerAscii, lowerAscii, List.map_append]⟩

/-- A text that starts with `pat` and ends in another character than `pat` encloses something. -/
theorem exists_enclosed {pat : String} {cs : List Char} {close : Char}
    (hstart : startsWith pat (lowerAscii cs) = true) (hclose : cs.getLast? = some close)
    (hpat : pat.toList.getLast? ≠ some close.toLower) :
    ∃ head inner, cs = head ++ (inner ++ [close]) ∧ lowerAscii head = pat.toList := by
  obtain ⟨head, rest, rfl, hhead⟩ := startsWith_lowerAscii_iff.1 hstart
  have hrest : rest ≠ [] := by
    rintro rfl
    rw [List.append_nil] at hclose
    apply hpat
    rw [← hhead, lowerAscii, List.getLast?_map, hclose]
    rfl
  rw [List.getLast?_append_of_ne_nil _ hrest] at hclose
  obtain ⟨inner, rfl⟩ := List.getLast?_eq_some_iff.1 hclose
  exact ⟨head, inner, rfl, hhead⟩

/-! ## What is enclosed -/

/-- `inner` is the text of the other type in an optional spelling. The fixed parts may be written
in any ASCII case. -/
inductive Encloses : List Char → List Char → Prop
  | brackets {head inner} (h : lowerAscii head = "optional[".toList) :
      Encloses (head ++ (inner ++ [']'])) inner
  | parentheses {head inner} (h : lowerAscii head = "optional-of(".toList) :
      Encloses (head ++ (inner ++ [')'])) inner
  | dash {head inner} (h : lowerAscii head = "optional-".toList)
      (hof : ¬ "of(".toList <+: lowerAscii inner) : Encloses (head ++ inner) inner

theorem byteLength_eq_of_lowerAscii {head : List Char} {pat : String}
    (h : lowerAscii head = pat.toList) : byteLength head = byteLength pat.toList := by
  rw [← byteLength_lowerAscii, h]

theorem startsWith_append {pat : String} {head : List Char} (h : lowerAscii head = pat.toList)
    (rest : List Char) : startsWith pat (lowerAscii (head ++ rest)) = true :=
  startsWith_lowerAscii_iff.2 ⟨head, rest, rfl, h⟩

/-- Two texts of which neither starts the other do not start one text. -/
theorem startsWith_append_eq_false {pat pat' : String} {head : List Char}
    (h : lowerAscii head = pat'.toList) (hne : pat.toList.isPrefixOf pat'.toList = false)
    (hne' : pat'.toList.isPrefixOf pat.toList = false) (rest : List Char) :
    startsWith pat (lowerAscii (head ++ rest)) = false := by
  rw [Bool.eq_false_iff]
  intro hstart
  have hpat : pat.toList <+: lowerAscii (head ++ rest) := List.isPrefixOf_iff_prefix.1 hstart
  have hpat' : pat'.toList <+: lowerAscii (head ++ rest) :=
    List.isPrefixOf_iff_prefix.1 (startsWith_append h rest)
  rcases List.prefix_or_prefix_of_prefix hpat hpat' with hp | hp
  · exact absurd (List.isPrefixOf_iff_prefix.2 hp) (by simp [hne])
  · exact absurd (List.isPrefixOf_iff_prefix.2 hp) (by simp [hne'])

theorem getLast?_close (head inner : List Char) (close : Char) :
    (head ++ (inner ++ [close])).getLast? = some close := by
  rw [← List.append_assoc, List.getLast?_concat]

/-- The cut between a fixed part and the closing character. -/
theorem slice?_closed {head : List Char} {pat : String} (h : lowerAscii head = pat.toList)
    (inner : List Char) {c : Char} (hc : c.utf8Size = 1) :
    slice? (head ++ (inner ++ [c])) (byteLength pat.toList)
      (byteLength (head ++ (inner ++ [c])) - 1) = some inner := by
  have hstop : byteLength (head ++ (inner ++ [c])) - 1 =
      byteLength head + byteLength inner := by
    simp only [byteLength_append, byteLength, hc]
    omega
  rw [hstop, ← byteLength_eq_of_lowerAscii h, slice?_append]

/-- The cut behind a fixed part. -/
theorem slice?_open {head : List Char} {pat : String} (h : lowerAscii head = pat.toList)
    (inner : List Char) :
    slice? (head ++ inner) (byteLength pat.toList) (byteLength (head ++ inner)) = some inner := by
  have hcut := slice?_append head inner []
  rwa [List.append_nil, ← byteLength_append, byteLength_eq_of_lowerAscii h] at hcut

theorem startsWith_of_iff {head : List Char} (h : lowerAscii head = "optional-".toList)
    (inner : List Char) :
    startsWith "optional-of(" (lowerAscii (head ++ inner)) = true ↔
      "of(".toList <+: lowerAscii inner := by
  have hpat : "optional-of(".toList = "optional-".toList ++ "of(".toList := by decide
  have hcs : lowerAscii (head ++ inner) = "optional-".toList ++ lowerAscii inner := by
    rw [← h, lowerAscii, lowerAscii, lowerAscii, List.map_append]
  rw [startsWith, List.isPrefixOf_iff_prefix, hpat, hcs, List.prefix_append_right_inj]

theorem optionalInner?_of_encloses {cs inner : List Char} (h : Encloses cs inner) :
    optionalInner? cs = some inner := by
  rw [optionalInner?, optionalSpan?]
  cases h with
  | brackets h =>
    have hcut := slice?_closed h inner (c := ']') (by decide)
    simp only [startsWith_append h, getLast?_close, beq_self_eq_true, Bool.and_self, if_true]
    exact hcut
  | parentheses h =>
    have hcut := slice?_closed h inner (c := ')') (by decide)
    have hbracket : ∀ rest, startsWith "optional[" (lowerAscii (_ ++ rest)) = false :=
      startsWith_append_eq_false h (by decide) (by decide)
    simp only [hbracket, startsWith_append h, getLast?_close, beq_self_eq_true, Bool.and_self,
      Bool.false_and, Bool.false_eq_true, if_true, if_false]
    exact hcut
  | dash h hof =>
    have hcut := slice?_open h inner
    have hbracket : startsWith "optional[" (lowerAscii (_ ++ inner)) = false :=
      startsWith_append_eq_false h (by decide) (by decide) inner
    have hparen : startsWith "optional-of(" (lowerAscii (_ ++ inner)) = false :=
      Bool.eq_false_iff.2 fun hp => hof ((startsWith_of_iff h inner).1 hp)
    simp only [hbracket, hparen, startsWith_append h, Bool.false_and, Bool.not_false, Bool.and_true,
      Bool.false_eq_true, if_true, if_false]
    exact hcut

/-- A text with offsets for a cut is an optional spelling. -/
theorem exists_encloses_of_optionalSpan? {cs : List Char} {span : Nat × Nat}
    (h : optionalSpan? cs = some span) : ∃ part, Encloses cs part := by
  rw [optionalSpan?] at h
  by_cases hbrackets : (startsWith "optional[" (lowerAscii cs) && cs.getLast? == some ']') = true
  · obtain ⟨hstart, hclose⟩ := Bool.and_eq_true _ _ ▸ hbrackets
    obtain ⟨head, part, rfl, hhead⟩ := exists_enclosed hstart (eq_of_beq hclose) (by decide)
    exact ⟨part, .brackets hhead⟩
  by_cases hparens : (startsWith "optional-of(" (lowerAscii cs) && cs.getLast? == some ')') = true
  · obtain ⟨hstart, hclose⟩ := Bool.and_eq_true _ _ ▸ hparens
    obtain ⟨head, part, rfl, hhead⟩ := exists_enclosed hstart (eq_of_beq hclose) (by decide)
    exact ⟨part, .parentheses hhead⟩
  by_cases hdash : (startsWith "optional-" (lowerAscii cs) &&
      !startsWith "optional-of(" (lowerAscii cs)) = true
  · obtain ⟨hstart, hnot⟩ := Bool.and_eq_true _ _ ▸ hdash
    obtain ⟨head, part, rfl, hhead⟩ := startsWith_lowerAscii_iff.1 hstart
    refine ⟨part, .dash hhead fun hof => ?_⟩
    rw [(startsWith_of_iff hhead part).2 hof] at hnot
    exact absurd hnot (by decide)
  · simp only [if_neg hbrackets, if_neg hparens, if_neg hdash] at h
    exact absurd h (by simp)

/-- A text with a cut is an optional spelling. -/
theorem exists_encloses {cs inner : List Char} (h : optionalInner? cs = some inner) :
    ∃ part, Encloses cs part := by
  rw [optionalInner?] at h
  split at h
  · rename_i hspan
    exact exists_encloses_of_optionalSpan? hspan
  · cases h

/-- What is cut out of a text is what it encloses. -/
theorem optionalInner?_eq_some_iff {cs inner : List Char} :
    optionalInner? cs = some inner ↔ Encloses cs inner := by
  constructor
  · intro h
    obtain ⟨part, hpart⟩ := exists_encloses h
    have hcut := optionalInner?_of_encloses hpart
    rw [h] at hcut
    rwa [Option.some.inj hcut]
  · exact optionalInner?_of_encloses

/-- An optional spelling is longer than the name of any scalar. -/
theorem Encloses.length_lt {cs inner : List Char} (h : Encloses cs inner) : 8 < cs.length := by
  have hlength : ∀ {head : List Char} {pat : String}, lowerAscii head = pat.toList →
      head.length = pat.toList.length := by
    intro head pat hhead
    rw [← hhead, lowerAscii, List.length_map]
  cases h with
  | brackets h =>
    have hhead := hlength h
    have hnine : "optional[".toList.length = 9 := by decide
    rw [List.length_append]
    omega
  | parentheses h =>
    have hhead := hlength h
    have htwelve : "optional-of(".toList.length = 12 := by decide
    rw [List.length_append]
    omega
  | dash h _ =>
    have hhead := hlength h
    have hnine : "optional-".toList.length = 9 := by decide
    rw [List.length_append]
    omega

end FieldType

end CommandForge
