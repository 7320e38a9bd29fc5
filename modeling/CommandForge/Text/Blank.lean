/-!
# Blank characters

The characters that carry no ink: the White_Space property of Unicode. Trimming removes them at
the ends of a text; nothing in between changes.
-/

namespace CommandForge.Text

/-- The character has the property White_Space. -/
def isBlank (c : Char) : Bool :=
  let n := c.toNat
  (0x09 ≤ n && n ≤ 0x0D) || n == 0x20 || n == 0x85 || n == 0xA0 || n == 0x1680
    || (0x2000 ≤ n && n ≤ 0x200A) || n == 0x2028 || n == 0x2029 || n == 0x202F || n == 0x205F
    || n == 0x3000

/-- `cs` without the blank characters at its start. -/
def trimStart (cs : List Char) : List Char := cs.dropWhile isBlank

/-- `cs` without the blank characters at its end. -/
def trimEnd (cs : List Char) : List Char := (cs.reverse.dropWhile isBlank).reverse

/-- `cs` without the blank characters at both ends. -/
def trim (cs : List Char) : List Char := trimEnd (trimStart cs)

/-- Dropping at the start and then at the end leaves a part of the list in its order. -/
theorem dropEnds_sublist {α : Type} (p : α → Bool) (xs : List α) :
    ((xs.dropWhile p).reverse.dropWhile p).reverse.Sublist xs := by
  have hstart : (xs.dropWhile p).Sublist xs := List.dropWhile_sublist p
  have hend : ((xs.dropWhile p).reverse.dropWhile p).reverse.Sublist
      (xs.dropWhile p).reverse.reverse := (List.dropWhile_sublist p).reverse
  rw [List.reverse_reverse] at hend
  exact hend.trans hstart

theorem trim_sublist (cs : List Char) : (trim cs).Sublist cs := dropEnds_sublist isBlank cs

theorem length_trim_le (cs : List Char) : (trim cs).length ≤ cs.length :=
  (trim_sublist cs).length_le

end CommandForge.Text
