import Mathlib.Data.String.Basic
/-!
# The byte order of texts

Texts compare by their code points. In UTF-8 that is the order of their bytes (`utf8_lt_iff`): a
code point is a lead byte and then its lower bits, six in each further byte, the lead byte grows
with the number of those, and equally many compare digit by digit (`continuation_lt`).
-/

namespace CommandForge.Text

/-- The bytes of a text in UTF-8. -/
def utf8 (s : String) : List UInt8 := s.toList.flatMap String.utf8EncodeChar

/-- The last `k` bytes of a code point, six bits in each. -/
def continuation : Nat → Nat → List UInt8
  | 0, _ => []
  | k + 1, n => UInt8.ofNat (n / 64 ^ k % 64 + 128) :: continuation k n

theorem byte_cons_lt {a b : Nat} (hb : b < 256) {xs ys : List UInt8}
    (h : a < b ∨ a = b ∧ xs < ys) : UInt8.ofNat a :: xs < UInt8.ofNat b :: ys := by
  rcases h with h | ⟨rfl, h⟩
  · refine List.cons_lt_cons_iff.2 (.inl ?_)
    rwa [UInt8.lt_iff_toNat_lt, UInt8.toNat_ofNat_of_lt' (Nat.lt_trans h hb),
      UInt8.toNat_ofNat_of_lt' hb]
  · exact List.cons_lt_cons_iff.2 (.inr ⟨rfl, h⟩)

theorem continuation_lt {k m n : Nat} (hmn : m < n) (hk : m / 64 ^ k = n / 64 ^ k)
    (xs ys : List UInt8) : continuation k m ++ xs < continuation k n ++ ys := by
  induction k with
  | zero => simp only [Nat.pow_zero, Nat.div_one] at hk; omega
  | succ k ih =>
    simp only [continuation, List.cons_append]
    by_cases h : m / 64 ^ k = n / 64 ^ k
    · exact byte_cons_lt (by omega) (.inr ⟨by rw [h], ih h⟩)
    · have hle : m / 64 ^ k ≤ n / 64 ^ k := Nat.div_le_div_right (Nat.le_of_lt hmn)
      rw [Nat.pow_succ, ← Nat.div_div_eq_div_mul, ← Nat.div_div_eq_div_mul] at hk
      exact byte_cons_lt (by omega) (.inl (by omega))

/-- A code point is written with `k` continuation bytes behind a byte that tells `k`. -/
theorem utf8EncodeChar_eq (c : Char) :
    ∃ k lead, String.utf8EncodeChar c =
        UInt8.ofNat (c.toNat / 64 ^ k + lead) :: continuation k c.toNat ∧
      (k = 0 ∧ lead = 0 ∧ c.toNat < 0x80 ∨
        k = 1 ∧ lead = 192 ∧ 0x80 ≤ c.toNat ∧ c.toNat < 0x800 ∨
        k = 2 ∧ lead = 224 ∧ 0x800 ≤ c.toNat ∧ c.toNat < 0x10000 ∨
        k = 3 ∧ lead = 240 ∧ 0x10000 ≤ c.toNat ∧ c.toNat < 0x110000) := by
  have hlt : c.toNat < 0x110000 := by
    have := c.valid
    simp only [UInt32.isValidChar, Nat.isValidChar] at this
    simp only [Char.toNat]
    omega
  by_cases h1 : c.toNat ≤ 0x7f
  · exact ⟨0, 0, by simp [String.utf8EncodeChar, continuation, h1], by omega⟩
  by_cases h2 : c.toNat ≤ 0x7ff
  · refine ⟨1, 192, ?_, by omega⟩
    have hlead : c.toNat / 64 < 32 := by omega
    simp [String.utf8EncodeChar, continuation, h1, h2, Nat.mod_eq_of_lt hlead]
  by_cases h3 : c.toNat ≤ 0xffff
  · refine ⟨2, 224, ?_, by omega⟩
    have hlead : c.toNat / 4096 < 16 := by omega
    simp [String.utf8EncodeChar, continuation, h1, h2, h3, Nat.mod_eq_of_lt hlead]
  · refine ⟨3, 240, ?_, by omega⟩
    have hlead : c.toNat / 262144 < 8 := by omega
    simp [String.utf8EncodeChar, continuation, h1, h2, h3, Nat.mod_eq_of_lt hlead]

theorem utf8EncodeChar_append_lt {c d : Char} (h : c < d) (xs ys : List UInt8) :
    String.utf8EncodeChar c ++ xs < String.utf8EncodeChar d ++ ys := by
  have hcd : c.toNat < d.toNat := h
  obtain ⟨k, a, hc, hk⟩ := utf8EncodeChar_eq c
  obtain ⟨l, b, hd, hl⟩ := utf8EncodeChar_eq d
  rw [hc, hd, List.cons_append, List.cons_append]
  by_cases hkl : k = l
  · subst l
    obtain rfl : a = b := by omega
    have hle : c.toNat / 64 ^ k ≤ d.toNat / 64 ^ k := Nat.div_le_div_right (Nat.le_of_lt hcd)
    have hb : d.toNat / 64 ^ k + a < 256 := by
      rcases hl with ⟨rfl, rfl, hl⟩ | ⟨rfl, rfl, hl⟩ | ⟨rfl, rfl, hl⟩ | ⟨rfl, rfl, hl⟩ <;> omega
    by_cases h : c.toNat / 64 ^ k = d.toNat / 64 ^ k
    · exact byte_cons_lt hb (.inr ⟨by rw [h], continuation_lt hcd h xs ys⟩)
    · exact byte_cons_lt hb (.inl (by omega))
  · -- The lead bytes for each number of further bytes have a range of their own.
    have hlead : c.toNat / 64 ^ k + a < d.toNat / 64 ^ l + b ∧ d.toNat / 64 ^ l + b < 256 := by
      rcases hk with ⟨rfl, rfl, hk⟩ | ⟨rfl, rfl, hk⟩ | ⟨rfl, rfl, hk⟩ | ⟨rfl, rfl, hk⟩ <;>
      rcases hl with ⟨rfl, rfl, hl⟩ | ⟨rfl, rfl, hl⟩ | ⟨rfl, rfl, hl⟩ | ⟨rfl, rfl, hl⟩ <;> omega
    exact byte_cons_lt hlead.2 (.inl hlead.1)

theorem utf8_lt_of_lt {cs ds : List Char} (h : cs < ds) :
    cs.flatMap String.utf8EncodeChar < ds.flatMap String.utf8EncodeChar := by
  induction cs generalizing ds with
  | nil =>
    cases ds with
    | nil => exact absurd h (List.not_lt_nil _)
    | cons d ds =>
      obtain ⟨k, lead, hd, -⟩ := utf8EncodeChar_eq d
      rw [List.flatMap_nil, List.flatMap_cons, hd]
      exact List.nil_lt_cons _ _
  | cons c cs ih =>
    cases ds with
    | nil => exact absurd h (List.not_lt_nil _)
    | cons d ds =>
      simp only [List.flatMap_cons]
      rcases List.cons_lt_cons_iff.1 h with hcd | ⟨rfl, hcs⟩
      · exact utf8EncodeChar_append_lt hcd _ _
      · exact List.append_left_lt (ih hcs)

theorem utf8_lt_iff {s t : String} : utf8 s < utf8 t ↔ s < t := by
  have mono : ∀ {s t : String}, s < t → utf8 s < utf8 t := fun h => utf8_lt_of_lt h
  refine ⟨fun h => ?_, mono⟩
  rcases Std.lt_trichotomy s t with hlt | rfl | hgt
  · exact hlt
  · exact absurd h (List.lt_irrefl _)
  · exact absurd (List.lt_trans h (mono hgt)) (List.lt_irrefl _)

end CommandForge.Text
