import CommandForge.Declaration.Grammar.Rules
/-!
# Paths

Segments with double colons between them. A segment may have arguments in angle brackets, and a path
may go out from a type.
-/

namespace CommandForge.Declaration.Grammar

/-- Words that lead a path into a module; they take no arguments. -/
def pathWords : List String := ["super", "self", "crate", "try"]

/-- A path in a module can start here without a double colon. -/
def startsWithModule (ts : List Token) : Bool :=
  startsWithName ts || startsWithOneOf ["super", "self", "Self", "crate"] ts

/-- A path can start here. -/
def startsWithPath (ts : List Token) : Bool :=
  startsWithModule ts || startsWith "::" ts || startsWith "<" ts

/-- The tokens are a path without arguments. -/
def isBarePath (ts : List Token) : Bool :=
  ts.all fun t =>
    match t with
    | .ident _ | .punct ':' _ => true
    | _ => false

/-- The path without the arguments of its last segment, if there are none in them. -/
def withoutArguments? (path : List Token) : Option (List Token) :=
  match path.reverse with
  | .ident _ :: _ => some path
  | .punct '>' _ :: .punct '<' _ :: .punct ':' _ :: .punct ':' _ :: rest => some rest.reverse
  | .punct '>' _ :: .punct '<' _ :: rest => some rest.reverse
  | _ => none

/-- A path of words only. -/
def modulePath : Form := do
  let lead ← symbol? "::"
  let segment := wordWhere fun name =>
    isPlainName name || ["super", "self", "Self", "crate"].contains name
  let first ← segment
  let more ← whileForm (startsWith "::") (both (symbol "::") segment)
  return lead ++ first ++ more

variable (rules : Rules)

/-- A segment with its arguments. In a value, arguments stand behind a double colon only. -/
def segment (inValue : Bool) : Form := do
  if ← looking (startsWithOneOf pathWords) then anyWord
  else
    let name ← wordWhere fun name => isPlainName name || name == "Self"
    let ts ← get
    if !inValue && startsWith "<" ts && !startsWith "<=" ts && !startsWith "<<=" ts then
      let arguments ← rules.form .angled
      return name ++ arguments
    else if (dropSymbol? [':', ':'] ts).any (startsWith "<") then
      let arguments ← rules.turbofish
      return name ++ arguments
    else return name

/-- A path that does not go out from a type. -/
def path (inValue : Bool) : Reader Written := do
  let lead ← symbol? "::"
  let first ← segment rules inValue
  let more ← whileForm (fun ts => startsWith "::" ts && !startsWithInputs ts)
    (both (symbol "::") (segment rules inValue))
  return ⟨lead ++ first ++ more, if lead.isEmpty && more.isEmpty then .name else .path, false⟩

/-- A path that goes out from a type, or from what the type has of a trait. -/
def typePath (inValue : Bool) : Reader Written := do
  let left ← symbol "<"
  let type ← rules.type
  let role ← formIf (startsWithWord "as") (both (word "as") (Written.tokens <$> path rules false))
  let right ← symbol ">"
  let step := both (symbol "::") (segment rules inValue)
  let first ← step
  let more ← whileForm (startsWith "::") step
  return ⟨left ++ type ++ role ++ right ++ first ++ more, .path, false⟩

/-- A path of either kind. -/
def anyPath (inValue : Bool) : Reader Written := do
  if ← looking (startsWith "<") then typePath rules inValue else path rules inValue

/-- A macro call goes on behind its path. -/
def startsInvocation (path : List Token) (ts : List Token) : Bool :=
  isBarePath path && startsWithBang ts

/-- A macro call behind its path: an exclamation mark, and brackets with anything inside. -/
def invocation (path : List Token) : Reader Written := do
  let mark ← symbol "!"
  let curly ← looking (startsWithBracket .curly)
  let inner ← bracketed
  return ⟨path ++ mark ++ inner, .invocation curly, false⟩

end CommandForge.Declaration.Grammar
