import CommandForge.Declaration.Grammar.Member
/-!
# Items

Declarations: functions, types, constants, modules and what else has a name. An item that could be
none for another reason than its form is kept as it stands, with the attributes in front of it.
-/

namespace CommandForge.Declaration.Grammar

/-- A trait stands at the start, perhaps one that types have by themselves. -/
def startsWithTrait (ts : List Token) : Bool :=
  startsWithWord "trait" ts || (startsWithWord "auto" ts && startsWithWord "trait" (behind ts))

/-- A union stands at the start. -/
def startsWithUnion (ts : List Token) : Bool :=
  startsWithWord "union" ts && startsWithName (behind ts)

variable (rules : Rules)

/-! ## Structs and the like -/

/-- A field with a name. A blank one can be an unnamed struct or union. -/
def namedField : Form := do
  let marks ← attributes rules
  let scope ← visibility
  let isBlank ← looking (startsWithWord "_")
  let name ← nameOrBlank
  let colon ← symbol ":"
  let ts ← get
  let type ← if isBlank && (startsWithWord "struct" ts
      || (startsWithWord "union" ts && startsWithBracket .curly (behind ts))) then do
      let _ ← anyWord
      let _ ← rules .fields
      since ts
    else rules.type
  return marks ++ scope ++ name ++ colon ++ type

/-- Fields without names in round brackets. -/
def unnamedFields : Form := inside .round <| commaList do
  let marks ← attributes rules
  let scope ← visibility
  let type ← rules.type
  return marks ++ scope ++ type

/-- Fields with names in curly brackets. -/
def namedFields : Form := inside .curly (commaList (namedField rules))

/-- What follows the parameters of a struct. -/
def structBody : Form := do
  let isConditional ← looking (startsWithWord "where")
  let conditions ← predicates rules
  if ← looking fun ts => !isConditional && startsWithBracket .round ts then
    let fields ← unnamedFields rules
    let conditions ← predicates rules
    let stop ← symbol ";"
    return fields ++ conditions ++ stop
  else
    let body ← if ← looking (startsWithBracket .curly) then namedFields rules else symbol ";"
    return conditions ++ body

/-- A case of an enumeration. Who can see it is left out. -/
def enumCase : Form := do
  let marks ← attributes rules
  let _ ← visibility
  let name ← name
  let fields ← if ← looking (startsWithBracket .curly) then namedFields rules
    else formIf (startsWithBracket .round) (unnamedFields rules)
  let value ← assignedValue rules
  return marks ++ name ++ fields ++ value

/-- A struct, an enumeration or a union. -/
def typeItem : Form := do
  let scope ← visibility
  let ts ← get
  let mark ← wordWhere fun w => ["struct", "enum", "union"].contains w
  let name ← name
  let parameters ← parameters rules
  let cases := inside .curly (commaList (enumCase rules))
  let body ← if startsWithWord "struct" ts then structBody rules
    else both (predicates rules) (if startsWithWord "enum" ts then cases else namedFields rules)
  return scope ++ mark ++ name ++ parameters ++ body

/-! ## Modules and traits -/

/-- What follows the name of a trait: what it builds on and what it asks for, or what it is another
name for. -/
def traitBody (canBeAlias : Bool) : Form := do
  if ← looking fun ts => canBeAlias && startsWith "=" ts then
    let mark ← symbol "="
    let bounds ← boundList rules fun ts => startsWithWord "where" ts || startsWith ";" ts
    let conditions ← predicates rules
    let stop ← symbol ";"
    return mark ++ bounds ++ conditions ++ stop
  else
    let bounds ← formIf (startsWith ":") do
      let mark ← symbol ":"
      let bounds ← boundList rules fun ts =>
        startsWithWord "where" ts || startsWithBracket .curly ts
      return if bounds.isEmpty then [] else mark ++ bounds
    let conditions ← predicates rules
    let members ← inside .curly
      (both (innerAttributes rules) (sequence (traitMember rules)))
    return bounds ++ conditions ++ members

/-- A trait. One with no word in front of it can be another name for bounds. -/
def traitItem : Form := do
  let scope ← visibility
  let canBeAlias ← looking (startsWithWord "trait")
  let danger ← word? "unsafe"
  let own ← word? "auto"
  let mark ← word "trait"
  let name ← name
  let parameters ← parameters rules
  let body ← traitBody rules canBeAlias
  return scope ++ danger ++ own ++ mark ++ name ++ parameters ++ body

/-- A module. -/
def moduleItem : Form := do
  let scope ← visibility
  let danger ← word? "unsafe"
  let mark ← word "mod"
  let name ← wordWhere fun w => isPlainName w || w == "try"
  let body ← if ← looking (startsWith ";") then symbol ";"
    else inside .curly (both (innerAttributes rules) (sequence (rules.form .item)))
  return scope ++ danger ++ mark ++ name ++ body

/-- Functions and values from outside. -/
def foreignItems : Form := do
  let danger ← word? "unsafe"
  let mark ← both (word "extern") (formIf startsWithText literal)
  let members ← inside .curly
    (both (innerAttributes rules) (sequence (foreignMember rules)))
  return danger ++ mark ++ members

/-- What a type has, or how it has a trait; kept as it stands where it is no usual one. -/
def implItem : LooseForm := do
  let scope ← visibility
  let standard ← word? "default"
  let danger ← word? "unsafe"
  let mark ← word "impl"
  let parameters ← formIf startsWithParameters (parameters rules)
  let stage ← if ← looking fun ts => startsWith "?" ts && startsWithWord "const" (behind ts) then
      both (symbol "?") anyWord
    else word? "const"
  let ts ← get
  let isNegative := startsWith "!" ts && !startsWithBracket .curly (behind ts)
  let denial ← formIf (fun _ => isNegative) (symbol "!")
  let first ← rules (.type true)
  let isPath := (first.kind == .name || first.kind == .path) && !startsWith "<" first.tokens
  let isFor ← looking (startsWithWord "for")
  let subject ← if isFor then do
      let link ← anyWord
      let type ← rules.type
      pure (denial ++ first.tokens ++ link ++ type)
    else if isNegative then since ts
    else pure first.tokens
  let conditions ← predicates rules
  let members ← inside .curly
    (both (innerAttributes rules) (sequence (implMember rules)))
  return tokensIf (scope.isEmpty && stage.isEmpty && (!isFor || isPath))
    (standard ++ danger ++ mark ++ parameters ++ subject ++ conditions ++ members)

/-! ## Other items -/

/-- A function with its body; one without a body is kept as it stands. -/
def functionItem : LooseForm := do
  let scope ← visibility
  let (head, _) ← functionHead rules false
  if ← looking (startsWith ";") then
    let _ ← symbol ";"
    return none
  else
    let body ← attributedBlock rules
    return some (scope ++ head ++ body)

/-- A constant; kept as it stands where it has no value or is only there under conditions. -/
def constItem : LooseForm := do
  let scope ← visibility
  let (tokens, hasValue, isPlain) ← constantItem rules
  return tokensIf (hasValue && isPlain) (scope ++ tokens)

/-- Another name for a type; kept as it stands where it names none. -/
def aliasItem : LooseForm := do
  let scope ← visibility
  let type ← namedType rules true false
  return tokensIf (!type.hasColon && !type.definition.isEmpty)
    (scope ++ type.head ++ type.before ++ type.definition ++ type.stop)

/-- A value that stands at one place; kept as it stands where its type or its value is missing. -/
def staticItem : LooseForm := do
  let scope ← visibility
  let mark ← word "static"
  let kind ← word? "mut"
  let name ← name
  let colon ← symbol? ":"
  let type ← if colon.isEmpty then pure [] else rules.type
  let value ← assignedValue rules
  let stop ← symbol ";"
  demand (!type.isEmpty || !value.isEmpty)
  return tokensIf (!type.isEmpty && !value.isEmpty)
    (scope ++ mark ++ kind ++ name ++ colon ++ type ++ value ++ stop)

/-- What is taken from another package. -/
def packageItem : Form := do
  let scope ← visibility
  let mark ← both (word "extern") (word "crate")
  let name ← wordWhere fun w => isPlainName w || w == "self"
  let other ← formIf (startsWithWord "as") (both anyWord nameOrBlank)
  let stop ← symbol ";"
  return scope ++ mark ++ name ++ other ++ stop

/-- What is named behind the word for use. A path from the root in brackets keeps the whole as it
stands. -/
def useTree (root : Bool) : Reader Written := do
  let ts ← get
  if startsWith "*" ts then (⟨·, .plain, false⟩) <$> symbol "*"
  else if startsWithBracket .curly ts then
    let left ← opening .curly
    let entries ← entriesUntil atEnd "," fun _ => do
      let lead ← if root then symbol? "::" else pure []
      let tree ← rules (.useTree (root && lead.isEmpty))
      return if lead.isEmpty then tree else { tree with kind := .verbatim }
    let right ← closing .curly
    let kept := entries.any (·.item.kind == .verbatim)
    let inner := entries.flatMap fun e => e.item.tokens ++ e.separator
    return ⟨left ++ inner ++ right, if kept then .verbatim else .plain, false⟩
  else
    let first ← wordWhere fun w => isPlainName w || ["self", "super", "crate", "try"].contains w
    let more ← if ← looking (startsWith "::") then
        both (symbol "::") (rules.form (.useTree false))
      else formIf (startsWithWord "as") (both anyWord nameOrBlank)
    return ⟨first ++ more, .plain, false⟩

/-- What is used from elsewhere. -/
def useItem : LooseForm := do
  let scope ← visibility
  let mark ← word "use"
  let lead ← symbol? "::"
  let tree ← rules (.useTree lead.isEmpty)
  let stop ← symbol ";"
  return tokensIf (tree.kind != .verbatim) (scope ++ mark ++ lead ++ tree.tokens ++ stop)

/-- The declaration of a macro, which is kept as it stands. -/
def ruleItem : LooseForm := do
  let _ ← visibility
  let _ ← anyWord
  let _ ← name
  let _ ← formIf (startsWithBracket .round) bracketed
  demand (← looking (startsWithBracket .curly))
  let _ ← bracketed
  return none

/-- What the next word says about the item, behind what says who can see it. -/
def itemOf (isUnscoped : Bool) (ts : List Token) : LooseForm :=
  let next := behind ts
  let isDangerous := startsWithWord "unsafe" ts
  let lead := if isDangerous then next else ts
  if startsWithHead false ts then functionItem rules
  else if startsWithWord "extern" ts && startsWithWord "crate" next then some <$> packageItem
  else if startsWithWord "extern" lead then some <$> foreignItems rules
  else if startsWithWord "use" ts then useItem rules
  else if startsWithWord "static" ts then staticItem rules
  else if startsWithWord "const" ts then constItem rules
  else if startsWithWord "mod" lead then some <$> moduleItem rules
  else if startsWithWord "type" ts then aliasItem rules
  else if startsWithOneOf ["struct", "enum"] ts || startsWithUnion ts then some <$> typeItem rules
  else if startsWithTrait lead then some <$> traitItem rules
  else if startsWithWord "impl" lead
      || (startsWithWord "default" ts && !startsWith "!" next) then implItem rules
  else if startsWithWord "macro" ts then ruleItem
  else if isUnscoped && startsWithInvocation ts then some <$> invocationItem true
  else failure

/-- An item behind its attributes `marks`, which have been read since `start`. -/
def itemBehind (start marks : List Token) : Form :=
  marked start marks do
    let here ← get
    let scope ← visibility
    let ts ← get
    set here
    itemOf rules scope.isEmpty ts

/-- An item with its attributes. -/
def item : Form := do
  let start ← get
  let marks ← attributes rules
  itemBehind rules start marks

end CommandForge.Declaration.Grammar
