import CommandForge.Declaration.Grammar.Function
/-!
# Members

What stands inside a trait, inside what a type has, and among the items from outside: functions,
constants, and names of types. A member that could be none for another reason than its form is kept
as it stands, with the attributes in front of it.
-/

namespace CommandForge.Declaration.Grammar

/-- A macro call can start here, as an item of its own. -/
def startsWithInvocation (ts : List Token) : Bool :=
  startsWithName ts || startsWithOneOf ["self", "super", "crate"] ts || startsWith "::" ts

/-- A name, or a blank. -/
def nameOrBlank : Form := wordWhere fun w => isPlainName w || w == "_"

/-- A macro call, which may be `named`: then a name can stand in front of the brackets. -/
def invocationItem (named : Bool) : Form := do
  let path ← modulePath
  let mark ← symbol "!"
  let name ← if named then
      formIf startsWithIdent (wordWhere fun w => isPlainName w || w == "try")
    else pure []
  let isCurly ← looking (startsWithBracket .curly)
  let inner ← bracketed
  let stop ← if isCurly then pure [] else symbol ";"
  return path ++ mark ++ name ++ inner ++ stop

variable (rules : Rules)

/-! ## Constants and names of types -/

/-- A value behind a sign of equation. -/
def assignedValue : Form := formIf (startsWith "=") (both (symbol "=") rules.value)

/-- A constant, whether it has a value, and whether it is neither generic nor conditional. -/
def constantItem : Reader (List Token × Bool × Bool) := do
  let mark ← word "const"
  let name ← nameOrBlank
  let isGeneric ← looking (startsWith "<")
  let parameters ← parameters rules
  let colon ← symbol ":"
  let type ← rules.type
  let value ← assignedValue rules
  let isConditional ← looking (startsWithWord "where")
  let conditions ← predicates rules
  let stop ← symbol ";"
  return (mark ++ name ++ parameters ++ colon ++ type ++ value ++ conditions ++ stop,
    !value.isEmpty, !isGeneric && !isConditional)

/-- Bounds behind a colon, up to what ends them. -/
def boundList (stop : List Token → Bool) : Form :=
  listUntil stop "+" (rules.form (.bound false true))

/-- The name of a type, and what is said about it. -/
structure NamedType where
  head : List Token
  hasColon : Bool
  bounds : List Token
  definition : List Token
  /-- The conditions in front of the definition. -/
  before : List Token
  /-- The conditions behind the definition. -/
  after : List Token
  stop : List Token

/-- The name of a type. Conditions can stand in front of its definition or behind it. -/
def namedType (before after : Bool) : Reader NamedType := do
  let mark ← word "type"
  let name ← name
  let parameters ← parameters rules
  let hasColon ← looking (startsWith ":")
  let bounds ← formIf (startsWith ":") do
    let colon ← symbol ":"
    let bounds ← boundList rules fun ts =>
      startsWithWord "where" ts || startsWith "=" ts || startsWith ";" ts
    return if bounds.isEmpty then [] else colon ++ bounds
  let isConditional ← looking (startsWithWord "where")
  let lead ← if before then predicates rules else pure []
  let definition ← formIf (startsWith "=") (both (symbol "=") rules.type)
  let trail ← if after && !(before && isConditional) then predicates rules else pure []
  let stop ← symbol ";"
  return ⟨mark ++ name ++ parameters, hasColon, bounds, definition, lead, trail, stop⟩

/-! ## Members -/

/-- A member of a trait. -/
def traitMember : Form := do
  let start ← get
  let marks ← attributes rules
  let scope ← visibility
  let standard ← word? "default"
  let isUsual := scope.isEmpty && standard.isEmpty
  marked start marks do
    let ts ← get
    if startsWithHead false ts then
      let (head, _) ← functionHead rules false
      let body ← if ← looking (startsWith ";") then symbol ";" else attributedBlock rules
      return tokensIf isUsual (head ++ body)
    else if startsWithWord "const" ts then
      let (tokens, _, isPlain) ← constantItem rules
      return tokensIf (isUsual && isPlain) tokens
    else if startsWithWord "type" ts then
      let type ← namedType rules false true
      return tokensIf isUsual
        (type.head ++ type.bounds ++ type.definition ++ type.after ++ type.stop)
    else
      demand (isUsual && startsWithInvocation ts)
      some <$> invocationItem false

/-- A member of what a type has. -/
def implMember : Form := do
  let start ← get
  let marks ← attributes rules
  let scope ← visibility
  let standard ← formIf (fun ts => startsWithWord "default" ts && !startsWith "!" (behind ts))
    anyWord
  marked start (marks ++ scope ++ standard) do
    let ts ← get
    if startsWithHead false ts then
      let (head, _) ← functionHead rules false
      if ← looking (startsWith ";") then
        let _ ← symbol ";"
        return none
      else
        let body ← attributedBlock rules
        return some (head ++ body)
    else if startsWithWord "const" ts then
      let (tokens, hasValue, isPlain) ← constantItem rules
      return tokensIf (hasValue && isPlain) tokens
    else if startsWithWord "type" ts then
      let type ← namedType rules false true
      return tokensIf (!type.hasColon && !type.definition.isEmpty)
        (type.head ++ type.definition ++ type.after ++ type.stop)
    else
      demand (scope.isEmpty && standard.isEmpty && startsWithInvocation ts)
      some <$> invocationItem false

/-- A value from outside. -/
def foreignStatic : LooseForm := do
  let safety ← if ← looking (startsWithWord "unsafe") then anyWord else word? "safe"
  let mark ← word "static"
  let kind ← word? "mut"
  let name ← name
  let colon ← symbol ":"
  let type ← rules.type
  let value ← assignedValue rules
  let stop ← symbol ";"
  return tokensIf (safety.isEmpty && value.isEmpty) (mark ++ kind ++ name ++ colon ++ type ++ stop)

/-- An item from outside. -/
def foreignMember : Form := do
  let start ← get
  let marks ← attributes rules
  let scope ← visibility
  marked start (marks ++ scope) do
    let ts ← get
    if startsWithHead true ts then
      let (head, isSafe) ← functionHead rules true
      if ← looking (startsWithBracket .curly) then
        let _ ← attributedBlock rules
        return none
      else
        let stop ← symbol ";"
        return tokensIf (!isSafe) (head ++ stop)
    else if startsWithWord "static" ts || (startsWithOneOf ["unsafe", "safe"] ts
        && startsWithWord "static" (behind ts)) then foreignStatic rules
    else if startsWithWord "type" ts then
      let type ← namedType rules true true
      return tokensIf (!type.hasColon && type.definition.isEmpty)
        (type.head ++ type.before ++ type.after ++ type.stop)
    else
      demand (scope.isEmpty && startsWithInvocation ts)
      some <$> invocationItem false

end CommandForge.Declaration.Grammar
