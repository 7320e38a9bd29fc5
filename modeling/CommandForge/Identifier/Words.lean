import CommandForge.Identifier.Basic
/-!
# Words of an identifier

`Identifier.normalize` writes an identifier as lowercase words with underscores between them. Two
passes find the boundaries: the first separates a capital that starts a lowercase tail from what
stands before it, the second a capital from a small letter or digit before it. A run of capitals
stays one word up to the capital that starts a lowercase tail: `HTTPServer` has the words `http`
and `server`.

`Identifier.camel` and `Identifier.pascal` go the other way for any text.
-/

namespace CommandForge.Identifier

/-- Separates each capital with a lowercase tail from the character before it. The search goes on
behind the tail. -/
def separateTails : List Char → List Char
  | c :: u :: l :: cs =>
    if u.isUpper && l.isLower then
      c :: '_' :: u :: l :: (cs.takeWhile Char.isLower
        ++ separateTails (cs.dropWhile Char.isLower))
    else c :: separateTails (u :: l :: cs)
  | cs => cs
termination_by cs => cs.length
decreasing_by
  · have := (List.dropWhile_sublist (l := cs) Char.isLower).length_le
    simp only [List.length_cons]
    omega
  · simp

/-- Separates each capital from a small letter or digit directly before it. -/
def separateCapitals : List Char → List Char
  | a :: b :: cs =>
    if (a.isLower || a.isDigit) && b.isUpper then a :: '_' :: b :: separateCapitals cs
    else a :: separateCapitals (b :: cs)
  | cs => cs

/-- The words of an identifier, lowercase, with an underscore between neighbours. -/
def snake (cs : List Char) : List Char :=
  Text.lowerAscii (separateCapitals (separateTails cs))

/-- The normalized form of an identifier. -/
def normalize (s : String) : Except InvalidIdentifier String :=
  match fault? s.toList with
  | some fault => .error ⟨s, fault⟩
  | none => .ok (String.ofList (snake s.toList))

/-- Joins words at underscores: the character behind an underscore is capitalized, unless nothing
was written yet. -/
def camelChars (started capitalize : Bool) : List Char → List Char
  | [] => []
  | c :: cs =>
    if c = '_' then camelChars started started cs
    else if capitalize then Text.upperChar c ++ camelChars true false cs
    else c :: camelChars true false cs

/-- The words of `s` joined, each but the first capitalized. -/
def camel (s : String) : String := String.ofList (camelChars false false s.toList)

/-- Joins words at underscores: the first character of each word is capitalized. -/
def pascalChars (capitalize : Bool) : List Char → List Char
  | [] => []
  | c :: cs =>
    if c = '_' then pascalChars true cs
    else if capitalize then Text.upperChar c ++ pascalChars false cs
    else c :: pascalChars false cs

/-- The words of `s` joined, each capitalized. -/
def pascal (s : String) : String := String.ofList (pascalChars true s.toList)

end CommandForge.Identifier
