import CommandForge.Number.Decimal
/-!
# Strings of TOML texts

Four kinds of strings: with escapes or literally, on one line or on several. A string on several
lines ends at three quotes; one or two quotes right before these belong to it. A line feed right
behind its opening quotes does not.
-/

namespace CommandForge.Toml

/-- A character that may stand in a string or a comment: a tab, or no control character of
ASCII. -/
def isTextChar (c : Char) : Bool := c == '\t' || (0x20 ≤ c.toNat && c.toNat != 0x7F)

/-- White space inside a line. -/
def isSpace (c : Char) : Bool := c == ' ' || c == '\t'

/-- What follows the white space at the start. -/
def skipSpace (cs : List Char) : List Char := cs.dropWhile isSpace

/-- What follows the line end at the start. -/
def lineEnd? : List Char → Option (List Char)
  | '\n' :: rest => some rest
  | '\r' :: '\n' :: rest => some rest
  | _ => none

/-- The number that `count` hexadecimal digits continue, and what follows them. -/
def readHex : (count n : Nat) → List Char → Option (Nat × List Char)
  | 0, n, cs => some (n, cs)
  | _ + 1, _, [] => none
  | count + 1, n, c :: cs =>
    match Number.hexValue? c with
    | some v => readHex count (16 * n + v) cs
    | none => none

/-- The character whose code has `count` hexadecimal digits. -/
def readCode (count : Nat) (cs : List Char) : Option (Char × List Char) :=
  match readHex count 0 cs with
  | some (n, rest) => if n.isValidChar then some (Char.ofNat n, rest) else none
  | none => none

/-- The character of an escape, behind its backslash. -/
def readEscape : List Char → Option (Char × List Char)
  | [] => none
  | c :: rest =>
    match c with
    | 'b' => some ('\x08', rest)
    | 't' => some ('\t', rest)
    | 'n' => some ('\n', rest)
    | 'f' => some ('\x0c', rest)
    | 'r' => some ('\r', rest)
    | 'e' => some ('\x1b', rest)
    | '"' => some ('"', rest)
    | '\\' => some ('\\', rest)
    | 'x' => readCode 2 rest
    | 'u' => readCode 4 rest
    | 'U' => readCode 8 rest
    | _ => none

theorem length_of_readHex {count n m : Nat} {cs rest : List Char}
    (h : readHex count n cs = some (m, rest)) : rest.length ≤ cs.length := by
  fun_induction readHex count n cs with
  | case1 => simp_all
  | case2 => simp at h
  | case3 n count c cs v _ ih =>
    have := ih h
    simp only [List.length_cons]
    omega
  | case4 => simp at h

theorem length_of_readCode {count : Nat} {c : Char} {cs rest : List Char}
    (h : readCode count cs = some (c, rest)) : rest.length ≤ cs.length := by
  simp only [readCode] at h
  split at h
  · rename_i hx
    split at h
    · simp only [Option.some.injEq, Prod.mk.injEq] at h
      exact h.2 ▸ length_of_readHex hx
    · simp at h
  · simp at h

theorem length_of_readEscape {c : Char} {cs rest : List Char}
    (h : readEscape cs = some (c, rest)) : rest.length < cs.length := by
  cases cs with
  | nil => simp [readEscape] at h
  | cons d cs =>
    simp only [readEscape] at h
    simp only [List.length_cons]
    split at h
    case h_9 | h_10 | h_11 =>
      have := length_of_readCode h
      omega
    case h_12 => simp at h
    all_goals
      simp only [Option.some.injEq, Prod.mk.injEq] at h
      simp [← h.2]

/-- The characters up to the closing quote, and what follows it. -/
def readBasic : List Char → Option (List Char × List Char)
  | [] => none
  | c :: rest =>
    if c = '"' then some ([], rest)
    else if c = '\\' then
      match _h : readEscape rest with
      | some (d, behind) => (readBasic behind).map fun (s, rest) => (d :: s, rest)
      | none => none
    else if isTextChar c then (readBasic rest).map fun (s, rest) => (c :: s, rest)
    else none
termination_by cs => cs.length
decreasing_by
  · have := length_of_readEscape _h
    simp only [List.length_cons]
    omega
  · simp

/-- The characters up to the closing quote, and what follows it. -/
def readLiteral : List Char → Option (List Char × List Char)
  | [] => none
  | c :: rest =>
    if c = '\'' then some ([], rest)
    else if isTextChar c then (readLiteral rest).map fun (s, rest) => (c :: s, rest)
    else none

/-- At three closing quotes: the quotes before them that belong to the string, and what follows. -/
def closing? (quote : Char) (cs : List Char) : Option (List Char × List Char) :=
  let run := (cs.takeWhile (· = quote)).length
  if run < 3 then none
  else
    let own := min (run - 3) 2
    some (List.replicate own quote, cs.drop (3 + own))

/-- What follows the white space and the line ends at the start. -/
def skipLines : List Char → List Char
  | [] => []
  | c :: rest =>
    if isSpace c || c == '\n' then skipLines rest
    else
      match c, rest with
      | '\r', '\n' :: rest => skipLines rest
      | c, rest => c :: rest

theorem length_of_lineEnd? {cs rest : List Char} (h : lineEnd? cs = some rest) :
    rest.length < cs.length := by
  unfold lineEnd? at h
  split at h
  · simp only [Option.some.injEq] at h
    simp [h]
  · simp only [Option.some.injEq] at h
    simp only [h, List.length_cons]
    omega
  · simp at h

/-- What follows an escaped line end, behind its backslash. -/
def foldedLine? (cs : List Char) : Option (List Char) := (lineEnd? (skipSpace cs)).map skipLines

theorem length_skipLines_le (cs : List Char) : (skipLines cs).length ≤ cs.length := by
  fun_induction skipLines cs with
  | case1 => exact Nat.le_refl _
  | case2 c rest _ ih => simp only [List.length_cons]; omega
  | case3 rest _ ih => simp only [List.length_cons]; omega
  | case4 => exact Nat.le_refl _

theorem length_of_foldedLine? {cs rest : List Char} (h : foldedLine? cs = some rest) :
    rest.length < cs.length := by
  obtain ⟨behind, hb, rfl⟩ := Option.map_eq_some_iff.1 h
  have h1 : (skipSpace cs).length ≤ cs.length := (List.dropWhile_sublist _).length_le
  have h2 : behind.length < (skipSpace cs).length := length_of_lineEnd? hb
  have h3 := length_skipLines_le behind
  omega

/-- The character of an escape or the nothing of a folded line, and what follows. -/
def readLongEscape (cs : List Char) : Option (List Char × List Char) :=
  match foldedLine? cs with
  | some rest => some ([], rest)
  | none => (readEscape cs).map fun (c, rest) => ([c], rest)

theorem length_of_readLongEscape {s cs rest : List Char}
    (h : readLongEscape cs = some (s, rest)) : rest.length < cs.length := by
  simp only [readLongEscape] at h
  split at h
  · rename_i hf
    simp only [Option.some.injEq, Prod.mk.injEq] at h
    exact h.2 ▸ length_of_foldedLine? hf
  · obtain ⟨⟨c, r⟩, hr, he⟩ := Option.map_eq_some_iff.1 h
    simp only [Prod.mk.injEq] at he
    exact he.2 ▸ length_of_readEscape hr

/-- A character of a string on several lines that stands for itself. -/
def isLongChar (c : Char) (rest : List Char) : Bool :=
  isTextChar c || c == '\n' || (c == '\r' && rest.head? == some '\n')

/-- The characters up to the closing quotes, and what follows these. -/
def readLongBasic : List Char → Option (List Char × List Char)
  | [] => none
  | c :: rest =>
    match closing? '"' (c :: rest) with
    | some done => some done
    | none =>
      if c = '\\' then
        match _h : readLongEscape rest with
        | some (s, behind) => (readLongBasic behind).map fun (t, rest) => (s ++ t, rest)
        | none => none
      else if isLongChar c rest then (readLongBasic rest).map fun (s, rest) => (c :: s, rest)
      else none
termination_by cs => cs.length
decreasing_by
  · have := length_of_readLongEscape _h
    simp only [List.length_cons]
    omega
  · simp

/-- The characters up to the closing quotes, and what follows these. -/
def readLongLiteral : List Char → Option (List Char × List Char)
  | [] => none
  | c :: rest =>
    match closing? '\'' (c :: rest) with
    | some done => some done
    | none =>
      if isLongChar c rest then (readLongLiteral rest).map fun (s, rest) => (c :: s, rest)
      else none

/-- What follows a line end right behind opening quotes. -/
def dropFirstLineEnd (cs : List Char) : List Char := (lineEnd? cs).getD cs

/-- The string that starts at a quote, of any kind. -/
def readString? : List Char → Option (List Char × List Char)
  | '"' :: '"' :: '"' :: rest => readLongBasic (dropFirstLineEnd rest)
  | '"' :: rest => readBasic rest
  | '\'' :: '\'' :: '\'' :: rest => readLongLiteral (dropFirstLineEnd rest)
  | '\'' :: rest => readLiteral rest
  | _ => none

end CommandForge.Toml
