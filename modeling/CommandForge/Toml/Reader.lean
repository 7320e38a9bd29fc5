import CommandForge.Toml.Document
import CommandForge.Toml.Scalar
/-!
# Reading TOML texts

A text is a list of statements: headers of tables, and keys with their values. They are added to the
document one after the other, and the first thing in a text that is wrong decides what is wrong with
it; only numbers out of range matter when all else is right.
-/

namespace CommandForge.Toml

/-- Refuses what is malformed. -/
def orMalformed {α : Type} : Option α → Except Fault α
  | some x => .ok x
  | none => .error .malformed

/-! ## Blanks and keys -/

/-- What follows the comment at the start, if there is one. -/
def skipComment : List Char → List Char
  | '#' :: rest => rest.dropWhile isTextChar
  | cs => cs

/-- What follows a statement: blanks, a comment, and the end of the line or of the text. -/
def endLine? (cs : List Char) : Option (List Char) :=
  match skipComment (skipSpace cs) with
  | [] => some []
  | rest => lineEnd? rest

/-- What follows the blanks, comments and line ends at the start. -/
def skipFiller (inComment : Bool) : List Char → Option (List Char)
  | [] => some []
  | '\r' :: '\n' :: rest => skipFiller false rest
  | c :: rest =>
    if c = '\n' then skipFiller false rest
    else if inComment then if isTextChar c then skipFiller true rest else none
    else if isSpace c then skipFiller false rest
    else if c = '#' then skipFiller true rest
    else some (c :: rest)

/-- A character of a key without quotes. -/
def isKeyChar (c : Char) : Bool := c.isAlphanum || c == '_' || c == '-'

/-- One part of a key, and what follows it. -/
def readKeyPart : List Char → Option (String × List Char)
  | '"' :: rest => (readBasic rest).map fun (s, rest) => (String.ofList s, rest)
  | '\'' :: rest => (readLiteral rest).map fun (s, rest) => (String.ofList s, rest)
  | cs =>
    match cs.takeWhile isKeyChar with
    | [] => none
    | part => some (String.ofList part, cs.dropWhile isKeyChar)

/-- A key with its dots, and what follows it and its blanks. A text has more characters than a key
has parts, which bounds the steps. -/
def readKeyParts : Nat → List Char → Option (Key × List Char)
  | 0, _ => none
  | steps + 1, cs =>
    match readKeyPart (skipSpace cs) with
    | none => none
    | some (part, rest) =>
      match skipSpace rest with
      | '.' :: rest =>
        (readKeyParts steps rest).map fun (key, rest) => (⟨part :: key.path, key.last⟩, rest)
      | rest => some (⟨[], part⟩, rest)

/-- A key, and what follows it and its blanks. -/
def readKey (cs : List Char) : Except Fault (Key × List Char) := do
  let (key, rest) ← orMalformed (readKeyParts (cs.length + 1) cs)
  if maxDepth ≤ key.path.length then .error .longKey else .ok (key, rest)

/-- A key and its equals sign on one line, and what follows these and their blanks. -/
def readAssigned (cs : List Char) : Except Fault (Key × List Char) := do
  match ← readKey cs with
  | (key, '=' :: rest) => .ok (key, skipSpace rest)
  | _ => .error .malformed

/-- A key between braces and its equals sign, and what follows these. There may be line ends and
comments on either side of the sign. -/
def readAssignedInside (cs : List Char) : Except Fault (Key × List Char) := do
  let (key, rest) ← readKey cs
  match skipFiller false rest with
  | some ('=' :: rest) => return (key, ← orMalformed (skipFiller false rest))
  | _ => .error .malformed

/-! ## Values -/

mutual

/-- The value at the start, with at most `depth` arrays and tables inside one another. Every call
takes one unit of fuel; a text has more characters than a reading has calls. -/
def readValue : (fuel depth : Nat) → List Char → Except Fault (Toml × List Char)
  | 0, _, _ => .error .malformed
  | fuel + 1, depth, cs =>
    match cs with
    | '"' :: _ | '\'' :: _ =>
      orMalformed ((readString? cs).map fun (s, rest) => (.string (String.ofList s), rest))
    | '[' :: rest =>
      match depth with
      | 0 => .error .malformed
      | depth + 1 => (readItems fuel depth rest).map fun (items, rest) => (.array items, rest)
    | '{' :: rest =>
      match depth with
      | 0 => .error .malformed
      | depth + 1 =>
        (readPairs fuel depth [] rest).map fun (entries, rest) => (.table .inline entries, rest)
    | cs => orMalformed (readScalar cs)

/-- The items of an array up to its closing bracket. -/
def readItems : (fuel depth : Nat) → List Char → Except Fault (List Toml × List Char)
  | 0, _, _ => .error .malformed
  | fuel + 1, depth, cs =>
    match skipFiller false cs with
    | some (']' :: rest) => .ok ([], rest)
    | some cs => do
      let (item, rest) ← readValue fuel depth cs
      match skipFiller false rest with
      | some (']' :: rest) => .ok ([item], rest)
      | some (',' :: rest) =>
        let (items, rest) ← readItems fuel depth rest
        return (item :: items, rest)
      | _ => .error .malformed
    | none => .error .malformed

/-- The entries of a table with those added that stand before its closing brace. -/
def readPairs : (fuel depth : Nat) → Entries → List Char → Except Fault (Entries × List Char)
  | 0, _, _, _ => .error .malformed
  | fuel + 1, depth, entries, cs =>
    match skipFiller false cs with
    | some ('}' :: rest) => .ok (entries, rest)
    | some cs => do
      let (key, rest) ← readAssignedInside cs
      let (v, rest) ← readValue fuel depth rest
      let entries ← orMalformed (putValue key v entries)
      match skipFiller false rest with
      | some ('}' :: rest) => .ok (entries, rest)
      | some (',' :: rest) => readPairs fuel depth entries rest
      | _ => .error .malformed
    | none => .error .malformed

end

/-! ## Documents -/

/-- A document as far as it has been read, and the keys of the header that the next values are
behind. -/
structure Draft where
  current : List String := []
  entries : Entries := []

namespace Draft

/-- The draft with a header added, whose last key `f` opens. -/
def withHeader (d : Draft) (f : String → Entries → Option Entries) (key : Key) :
    Except Fault Draft := do
  let entries ← orMalformed (within (f key.last) key.path d.entries)
  return ⟨key.path ++ [key.last], entries⟩

/-- The draft with the statement added that stands at the start, and what follows it. -/
def readStatement (d : Draft) (cs : List Char) : Except Fault (Draft × List Char) := do
  match cs with
  | '[' :: '[' :: rest =>
    match ← readKey rest with
    | (key, ']' :: ']' :: rest) => return (← d.withHeader openFurther key, rest)
    | _ => .error .malformed
  | '[' :: rest =>
    match ← readKey rest with
    | (key, ']' :: rest) => return (← d.withHeader openTable key, rest)
    | _ => .error .malformed
  | cs =>
    let (key, rest) ← readAssigned cs
    let (v, rest) ← readValue (2 * rest.length + 2) maxDepth rest
    let entries ← orMalformed (within (putValue key v) d.current d.entries)
    return (⟨d.current, entries⟩, rest)

/-- The draft with all statements of a text added. There are at most as many lines as characters,
which bounds the steps. -/
def readStatements (d : Draft) : Nat → List Char → Except Fault Draft
  | 0, _ => .error .malformed
  | steps + 1, cs => do
    match ← orMalformed (skipFiller false cs) with
    | [] => .ok d
    | cs =>
      let (d, rest) ← d.readStatement cs
      readStatements d steps (← orMalformed (endLine? rest))

end Draft

/-- The table that a text makes up. A byte order mark at its start does not count. -/
def read (text : String) : Except Fault Entries := do
  let cs := match text.toList with
    | '\uFEFF' :: cs => cs
    | cs => cs
  let d ← Draft.readStatements {} (cs.length + 1) cs
  if entriesInRange d.entries then .ok d.entries else .error .malformed

end CommandForge.Toml
