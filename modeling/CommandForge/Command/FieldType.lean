import CommandForge.Text.Blank
import CommandForge.Text.Casing
/-!
# Field types

The type of a field is written as a text: a scalar by name, or one of three optional spellings
around another type. `FieldType.parse` reads every text; what it does not know it keeps as a custom
type. `FieldType.display` writes a type in one spelling.

An optional spelling is recognized on a copy of the text with ASCII letters made small. Its inner
text is then cut out of the text itself between two byte offsets (`optionalSpan?`, `slice?`).
-/

namespace CommandForge

/-- A declared field type. -/
inductive FieldType where
  | string
  | integer
  | boolean
  | optional (inner : FieldType)
  | custom (name : String)
  deriving DecidableEq, Repr

namespace FieldType

/-- Some value of the type may be absent. -/
def isOptional : FieldType → Bool
  | .optional _ => true
  | _ => false

/-- The type in its one spelling. -/
def display : FieldType → String
  | .string => "string"
  | .integer => "integer"
  | .boolean => "boolean"
  | .optional inner => "optional-of(" ++ inner.display ++ ")"
  | .custom name => name

/-- How many optionals stand around the innermost type. -/
def depth : FieldType → Nat
  | .optional inner => inner.depth + 1
  | _ => 0

/-- The innermost type. -/
def base : FieldType → FieldType
  | .optional inner => inner.base
  | ty => ty

/-! ## Cutting by bytes -/

/-- The size of a text in bytes. -/
def byteLength : List Char → Nat
  | [] => 0
  | c :: cs => c.utf8Size + byteLength cs

/-- `cs` without its first `n` bytes, if they are whole characters. -/
def dropBytes? : Nat → List Char → Option (List Char)
  | 0, cs => some cs
  | _ + 1, [] => none
  | n + 1, c :: cs => if c.utf8Size ≤ n + 1 then dropBytes? (n + 1 - c.utf8Size) cs else none

/-- The first `n` bytes of `cs`, if they are whole characters. -/
def takeBytes? : Nat → List Char → Option (List Char)
  | 0, _ => some []
  | _ + 1, [] => none
  | n + 1, c :: cs =>
    if c.utf8Size ≤ n + 1 then (takeBytes? (n + 1 - c.utf8Size) cs).map (c :: ·) else none

/-- The bytes of `cs` from `start` up to `stop`, if both lie between characters of `cs`. -/
def slice? (cs : List Char) (start stop : Nat) : Option (List Char) :=
  if start ≤ stop then (dropBytes? start cs).bind (takeBytes? (stop - start)) else none

theorem length_le_of_dropBytes? {n : Nat} {cs rest : List Char} (h : dropBytes? n cs = some rest) :
    rest.length ≤ cs.length ∧ (0 < n → rest.length < cs.length) := by
  fun_induction dropBytes? n cs with
  | case1 => simp_all
  | case2 => simp at h
  | case3 n c cs hc ih =>
    have := (ih h).1
    simp only [List.length_cons]
    omega
  | case4 => simp at h

theorem length_le_of_takeBytes? {n : Nat} {cs part : List Char} (h : takeBytes? n cs = some part) :
    part.length ≤ cs.length := by
  fun_induction takeBytes? n cs generalizing part with
  | case1 => simp_all
  | case2 => simp at h
  | case3 n c cs hc ih =>
    obtain ⟨p, hp, rfl⟩ := Option.map_eq_some_iff.1 h
    have := ih hp
    simp only [List.length_cons]
    omega
  | case4 => simp at h

/-- A slice that does not start at the front is shorter than its text. -/
theorem length_lt_of_slice? {cs part : List Char} {start stop : Nat} (h0 : 0 < start)
    (h : slice? cs start stop = some part) : part.length < cs.length := by
  simp only [slice?] at h
  split at h
  · obtain ⟨rest, hrest, hpart⟩ := Option.bind_eq_some_iff.1 h
    have := (length_le_of_dropBytes? hrest).2 h0
    have := length_le_of_takeBytes? hpart
    omega
  · simp at h

/-! ## Reading -/

/-- `cs` starts with `pat`. -/
def startsWith (pat : String) (cs : List Char) : Bool := pat.toList.isPrefixOf cs

/-- The byte offsets of the inner text of an optional spelling. -/
def optionalSpan? (cs : List Char) : Option (Nat × Nat) :=
  let small := Text.lowerAscii cs
  if startsWith "optional[" small && cs.getLast? == some ']' then
    some (9, byteLength cs - 1)
  else if startsWith "optional-of(" small && cs.getLast? == some ')' then
    some (12, byteLength cs - 1)
  else if startsWith "optional-" small && !startsWith "optional-of(" small then
    some (9, byteLength cs)
  else none

theorem pos_of_optionalSpan? {cs : List Char} {start stop : Nat}
    (h : optionalSpan? cs = some (start, stop)) : 0 < start := by
  simp only [optionalSpan?] at h
  split at h
  · simp_all; omega
  · split at h
    · simp_all; omega
    · split at h <;> simp_all
      omega

/-- The inner text of an optional spelling. -/
def optionalInner? (cs : List Char) : Option (List Char) :=
  match optionalSpan? cs with
  | some (start, stop) => slice? cs start stop
  | none => none

theorem length_lt_of_optionalInner? {cs inner : List Char} (h : optionalInner? cs = some inner) :
    inner.length < cs.length := by
  simp only [optionalInner?] at h
  split at h
  · rename_i hspan
    exact length_lt_of_slice? (pos_of_optionalSpan? hspan) h
  · simp at h

/-- The scalar that a text names, in any ASCII case; any other text is a custom type. -/
def ofName (cs : List Char) : FieldType :=
  match String.ofList (Text.lowerAscii cs) with
  | "str" | "string" => .string
  | "int" | "integer" => .integer
  | "bool" | "boolean" => .boolean
  | _ => .custom (String.ofList cs)

/-- The type that a text spells. Blank characters around it, at every level, do not count. -/
def parseChars (text : List Char) : FieldType :=
  match _h : optionalInner? (Text.trim text) with
  | some inner => .optional (parseChars inner)
  | none => ofName (Text.trim text)
termination_by text.length
decreasing_by
  exact Nat.lt_of_lt_of_le (length_lt_of_optionalInner? _h) (Text.length_trim_le text)

/-- The type that a text spells. -/
def parse (s : String) : FieldType := parseChars s.toList

end FieldType

end CommandForge
