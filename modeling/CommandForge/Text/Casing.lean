import CommandForge.Text.Table.Casing
/-!
# Letter case

The full case mappings of Unicode, which may turn one character into several. ASCII is decided
without the tables, so statements about identifiers do not depend on them. The lowercase of a
capital sigma depends on its neighbours: it is a final sigma at the end of a word.
-/

namespace CommandForge.Text

/-- The code point lies in one of the ranges. -/
def inRanges (ranges : Array (Nat × Nat)) (n : Nat) : Bool :=
  ranges.any fun (first, last) => first ≤ n && n ≤ last

/-- The image of `n` under the first run that moves it. -/
def mapRuns (runs : Array (Nat × Nat × Nat × Int)) (n : Nat) : Nat :=
  match runs.find? fun (first, last, step, _) =>
      first ≤ n && n ≤ last && (n - first) % step == 0 with
  | some (_, _, _, offset) => ((n : Int) + offset).toNat
  | none => n

/-- The characters with the given expansion, or the one-character mapping. -/
def mapCase (expansions : Array (Nat × List Nat)) (runs : Array (Nat × Nat × Nat × Int))
    (c : Char) : List Char :=
  match expansions.find? fun (n, _) => n == c.toNat with
  | some (_, image) => image.map Char.ofNat
  | none => [Char.ofNat (mapRuns runs c.toNat)]

/-- The lowercase of one character, out of context. -/
def lowerChar (c : Char) : List Char :=
  if c.toNat < 0x80 then [c.toLower] else mapCase Table.lowerExpansions Table.lowerRuns c

/-- The uppercase of one character. -/
def upperChar (c : Char) : List Char :=
  if c.toNat < 0x80 then [c.toUpper] else mapCase Table.upperExpansions Table.upperRuns c

/-- The first character that is not ignored is a cased one. -/
def startsCased (cs : List Char) : Bool :=
  match cs.dropWhile fun c => inRanges Table.caseIgnorable c.toNat with
  | c :: _ => inRanges Table.cased c.toNat
  | [] => false

/-- The lowercase of `cs` when the characters of `before`, last one first, stand in front of it. -/
def lowerAfter (before : List Char) : List Char → List Char
  | [] => []
  | c :: cs =>
    let image :=
      if c = 'Σ' then
        if startsCased before && !startsCased cs then ['ς'] else ['σ']
      else lowerChar c
    image ++ lowerAfter (c :: before) cs

/-- The lowercase of a text. -/
def lower (cs : List Char) : List Char := lowerAfter [] cs

/-- The lowercase of a text. -/
def lowercase (s : String) : String := String.ofList (lower s.toList)

/-- The text with its ASCII capitals made small; nothing else changes. -/
def lowerAscii (cs : List Char) : List Char := cs.map Char.toLower

end CommandForge.Text
