import CommandForge.Text.Lines
/-!
# Texts up to blank space

The form in which two texts are compared when blank characters at line ends and blank lines at
either end do not matter.
-/

namespace CommandForge.Text

/-- `lines` without the empty ones at both ends. -/
def dropEmptyEnds (lines : List (List Char)) : List (List Char) :=
  ((lines.dropWhile List.isEmpty).reverse.dropWhile List.isEmpty).reverse

theorem dropEmptyEnds_sublist (ls : List (List Char)) : (dropEmptyEnds ls).Sublist ls :=
  dropEnds_sublist List.isEmpty ls

/-- The lines of a text without blank characters at their ends, and without blank lines at either
end of the text. -/
def solidLines (cs : List Char) : List (List Char) := dropEmptyEnds ((lines cs).map trimEnd)

/-- The solid lines of a text, each closed by a line feed. -/
def canonicalChars (cs : List Char) : List Char := (solidLines cs).flatMap (· ++ ['\n'])

/-- The solid lines of a text, each closed by a line feed. -/
def canonical (s : String) : String := String.ofList (canonicalChars s.toList)

end CommandForge.Text
