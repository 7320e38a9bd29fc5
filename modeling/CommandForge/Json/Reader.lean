import CommandForge.Json.Literal
/-!
# Reading JSON

A strict reader of JSON texts: nothing before or behind the one value but white space, no lone
surrogates, no raw control characters in strings, no number beyond the doubles, and at most 127
arrays and objects inside one another. `Json.read?` gives the value; `Json.readWritten?` gives the
members of the outermost object as they were written, repetitions included.
-/

namespace CommandForge.Json

/-! ## Strings -/

/-- The number of four hexadecimal digits, and what follows them. -/
def readHex4 : List Char → Option (Nat × List Char)
  | a :: b :: c :: d :: rest =>
    match Number.hexValue? a, Number.hexValue? b, Number.hexValue? c, Number.hexValue? d with
    | some a, some b, some c, some d => some (((a * 16 + b) * 16 + c) * 16 + d, rest)
    | _, _, _, _ => none
  | _ => none

/-- The character of a low surrogate's escape, joined with the high surrogate before it. -/
def readLowSurrogate (high : Nat) : List Char → Option (Char × List Char)
  | '\\' :: 'u' :: rest =>
    match readHex4 rest with
    | some (low, rest) =>
      if 0xDC00 ≤ low ∧ low < 0xE000 then
        some (Char.ofNat (0x10000 + (high - 0xD800) * 0x400 + (low - 0xDC00)), rest)
      else none
    | none => none
  | _ => none

/-- The character of an escape whose backslash is read. -/
def readEscape : List Char → Option (Char × List Char)
  | '"' :: rest => some ('"', rest)
  | '\\' :: rest => some ('\\', rest)
  | '/' :: rest => some ('/', rest)
  | 'b' :: rest => some ('\x08', rest)
  | 'f' :: rest => some ('\x0c', rest)
  | 'n' :: rest => some ('\n', rest)
  | 'r' :: rest => some ('\r', rest)
  | 't' :: rest => some ('\t', rest)
  | 'u' :: rest =>
    match readHex4 rest with
    | some (n, rest) =>
      if 0xD800 ≤ n ∧ n < 0xDC00 then readLowSurrogate n rest
      else if 0xDC00 ≤ n ∧ n < 0xE000 then none
      else some (Char.ofNat n, rest)
    | none => none
  | _ => none

theorem length_of_readHex4 {cs rest : List Char} {n : Nat} (h : readHex4 cs = some (n, rest)) :
    rest.length < cs.length := by
  unfold readHex4 at h
  split at h
  · split at h
    · simp only [Option.some.injEq, Prod.mk.injEq] at h
      simp only [← h.2, List.length_cons]
      omega
    · simp at h
  · simp at h

theorem length_of_readLowSurrogate {high : Nat} {cs rest : List Char} {c : Char}
    (h : readLowSurrogate high cs = some (c, rest)) : rest.length < cs.length := by
  unfold readLowSurrogate at h
  split at h
  · split at h
    · rename_i hhex
      have := length_of_readHex4 hhex
      split at h
      · simp only [Option.some.injEq, Prod.mk.injEq] at h
        simp only [← h.2, List.length_cons]
        omega
      · simp at h
    · simp at h
  · simp at h

/-- An escape takes at least one character. -/
theorem length_of_readEscape {cs rest : List Char} {c : Char}
    (h : readEscape cs = some (c, rest)) : rest.length < cs.length := by
  unfold readEscape at h
  split at h
  case h_9 cs =>
    split at h
    · rename_i hhex
      have := length_of_readHex4 hhex
      simp only [List.length_cons]
      split at h
      · have := length_of_readLowSurrogate h
        omega
      · split at h
        · simp at h
        · simp only [Option.some.injEq, Prod.mk.injEq] at h
          rw [← h.2]
          omega
    · simp at h
  case h_10 => simp at h
  all_goals
    simp only [Option.some.injEq, Prod.mk.injEq] at h
    simp [← h.2]

/-- The characters of a string up to its closing quote, and what follows it. -/
def readChars : List Char → Option (List Char × List Char)
  | [] => none
  | '"' :: rest => some ([], rest)
  | '\\' :: rest =>
    match _h : readEscape rest with
    | some (c, rest') => (readChars rest').map fun (cs, behind) => (c :: cs, behind)
    | none => none
  | c :: rest =>
    if c.toNat < 0x20 then none
    else (readChars rest).map fun (cs, behind) => (c :: cs, behind)
termination_by cs => cs.length
decreasing_by
  · have := length_of_readEscape _h
    simp only [List.length_cons]
    omega
  · simp

/-! ## Numbers -/

/-- The digits at the start, and what follows them. -/
def spanDigits (cs : List Char) : List Char × List Char :=
  (cs.takeWhile Char.isDigit, cs.dropWhile Char.isDigit)

/-- Whole digits: at least one, and no zero in front of others. -/
def readWhole (cs : List Char) : Option (List Char × List Char) :=
  match spanDigits cs with
  | ([], _) => none
  | ('0' :: _ :: _, _) => none
  | (whole, rest) => some (whole, rest)

/-- The digits behind a point, if there is one. -/
def readFraction : List Char → Option (Option (List Char) × List Char)
  | '.' :: cs =>
    match spanDigits cs with
    | ([], _) => none
    | (fraction, rest) => some (some fraction, rest)
  | cs => some (none, cs)

/-- The digits of an exponent with its sign. -/
def readSigned (cs : List Char) : Option (Int × List Char) :=
  let (negative, cs) : Bool × List Char :=
    match cs with
    | '-' :: cs => (true, cs)
    | '+' :: cs => (false, cs)
    | cs => (false, cs)
  match spanDigits cs with
  | ([], _) => none
  | (ds, rest) =>
    let n : Int := Number.ofDigits ds
    some (if negative then -n else n, rest)

/-- An exponent, if there is one. -/
def readExponent : List Char → Option (Option Int × List Char)
  | 'e' :: cs | 'E' :: cs => (readSigned cs).map fun (n, rest) => (some n, rest)
  | cs => some (none, cs)

/-- The number at the start, and what follows it. -/
def readNumber (cs : List Char) : Option (JsonNumber × List Char) := do
  let (negative, cs) : Bool × List Char :=
    match cs with
    | '-' :: cs => (true, cs)
    | cs => (false, cs)
  let (whole, cs) ← readWhole cs
  let (fraction, cs) ← readFraction cs
  let (exponent, cs) ← readExponent cs
  let n ← NumberLiteral.value? ⟨negative, whole, fraction, exponent⟩
  return (n, cs)

/-! ## Values -/

/-- White space between tokens. -/
def isSpace (c : Char) : Bool := c == ' ' || c == '\n' || c == '\r' || c == '\t'

/-- What follows the white space at the start. -/
def skipSpace (cs : List Char) : List Char := cs.dropWhile isSpace

mutual

/-- The value at the start, with at most `depth` arrays and objects inside one another. Every call
takes one unit of fuel; a text has more characters than a reading has calls. -/
def readValue : (fuel depth : Nat) → List Char → Option (Json × List Char)
  | 0, _, _ => none
  | fuel + 1, depth, cs =>
    match skipSpace cs with
    | 'n' :: 'u' :: 'l' :: 'l' :: rest => some (.null, rest)
    | 't' :: 'r' :: 'u' :: 'e' :: rest => some (.bool true, rest)
    | 'f' :: 'a' :: 'l' :: 's' :: 'e' :: rest => some (.bool false, rest)
    | '"' :: rest => (readChars rest).map fun (s, rest) => (.string (String.ofList s), rest)
    | '[' :: rest =>
      match depth with
      | 0 => none
      | depth + 1 =>
        match skipSpace rest with
        | ']' :: rest => some (.array [], rest)
        | rest => (readItems fuel depth rest).map fun (items, rest) => (.array items, rest)
    | '{' :: rest =>
      (readMembers fuel depth rest).map fun (written, rest) => (.object (ofWritten written), rest)
    | cs => (readNumber cs).map fun (n, rest) => (.number n, rest)

/-- The items of an array that has at least one, up to its closing bracket. -/
def readItems : (fuel depth : Nat) → List Char → Option (List Json × List Char)
  | 0, _, _ => none
  | fuel + 1, depth, cs =>
    match readValue fuel depth cs with
    | none => none
    | some (item, rest) =>
      match skipSpace rest with
      | ']' :: rest => some ([item], rest)
      | ',' :: rest => (readItems fuel depth rest).map fun (items, rest) => (item :: items, rest)
      | _ => none

/-- The members of an object whose opening brace is read, as they are written. -/
def readMembers : (fuel depth : Nat) → List Char → Option (List (String × Json) × List Char)
  | 0, _, _ => none
  | _ + 1, 0, _ => none
  | fuel + 1, depth + 1, cs =>
    match skipSpace cs with
    | '}' :: rest => some ([], rest)
    | cs => readPairs fuel depth cs

/-- At least one member, up to the closing brace. -/
def readPairs : (fuel depth : Nat) → List Char → Option (List (String × Json) × List Char)
  | 0, _, _ => none
  | fuel + 1, depth, cs =>
    match skipSpace cs with
    | '"' :: rest =>
      match readChars rest with
      | none => none
      | some (key, rest) =>
        match skipSpace rest with
        | ':' :: rest =>
          match readValue fuel depth rest with
          | none => none
          | some (value, rest) =>
            match skipSpace rest with
            | '}' :: rest => some ([(String.ofList key, value)], rest)
            | ',' :: rest =>
              (readPairs fuel depth rest).map fun (pairs, rest) =>
                ((String.ofList key, value) :: pairs, rest)
            | _ => none
        | _ => none
    | _ => none

end

/-- The greatest number of arrays and objects inside one another. -/
def maxDepth : Nat := 127

/-- Enough fuel for a text. -/
def fuelFor (cs : List Char) : Nat := 2 * cs.length + 2

/-- The value of a JSON text. -/
def readChars? (cs : List Char) : Option Json :=
  match readValue (fuelFor cs) maxDepth cs with
  | some (value, rest) => if (skipSpace rest).isEmpty then some value else none
  | none => none

/-- The value of a JSON text. -/
def read? (s : String) : Option Json := readChars? s.toList

/-- The members of a text that is one object, as they are written. -/
def readWritten? (s : String) : Option (List (String × Json)) :=
  match skipSpace s.toList with
  | '{' :: cs =>
    match readMembers (fuelFor cs) maxDepth cs with
    | some (written, rest) => if (skipSpace rest).isEmpty then some written else none
    | none => none
  | _ => none

end CommandForge.Json
