import CommandForge.Declaration.Grammar.Attribute
/-!
# Bounds, parameters and arguments

What is asked of a type, the parameters that a declaration or a function is for, and the arguments
given for them. Lifetimes are written in front of everything else, and empty lists of parameters are
left out.
-/

namespace CommandForge.Declaration.Grammar

/-- A bound can start here; `constants` says that it can be one for constant evaluation. -/
def startsWithBound (constants : Bool) (ts : List Token) : Bool :=
  startsWithIdent ts || startsWith "::" ts || startsWith "?" ts || startsWithLifetime ts
    || startsWithBracket .round ts || (constants && startsWithBracket .square ts)

/-- A list of bounds ends here. -/
def endsBounds (ts : List Token) : Bool :=
  atEnd ts || startsWithBracket .curly ts || startsWith "," ts || startsWith ";" ts
    || startsWithColon ts || startsWith "=" ts

variable (rules : Rules)

/-- An arrow and a type, if there is an arrow. -/
def output (plus : Bool) : Form :=
  formIf (startsWith "->") (both (symbol "->") (rules.form (.type plus)))

/-- Types in round brackets. A double colon in front of them is left out. -/
def inputs : Form := do
  let _ ← symbol? "::"
  inside .round (commaList rules.type)

/-! ## Parameters -/

/-- Lifetimes with plus signs between them, behind a colon; the colon is left out if there are
none. -/
def lifetimeBounds (stop : List Token → Bool) : Form := do
  let mark ← symbol ":"
  let bounds ← entryTokens <$> chainUntil stop "+" lifetime
  return if bounds.isEmpty then [] else mark ++ bounds

/-- A literal, or a block. -/
def constant : Form := do
  if ← looking startsWithLiteral then literal else attributedBlock rules

/-- What is asked of a type, behind a colon; the colon is left out if that is nothing. -/
def typeBounds (stop : List Token → Bool) : Form := do
  let mark ← symbol ":"
  let bounds ← entryTokens <$> chainUntil stop "+" (rules.form (.bound false true))
  return if bounds.isEmpty then [] else mark ++ bounds

/-- A lifetime, a type or a constant that something is for; with `blanks`, a type can be left
blank. -/
def parameter (blanks : Bool) : Reader Parameter := do
  let marks ← attributes rules
  let ends := fun ts => atEnd ts || startsWith "," ts || startsWith ">" ts
  if ← looking startsWithLifetime then
    let name ← lifetime
    let bounds ← formIf (startsWith ":") (lifetimeBounds ends)
    return ⟨true, marks ++ name ++ bounds⟩
  else if ← looking (startsWithWord "const") then
    let mark ← anyWord
    let name ← name
    let colon ← symbol ":"
    let type ← rules.type
    let value ← formIf (startsWith "=") (both (symbol "=") do
      if ← looking startsWithName then anyWord else constant rules)
    return ⟨false, marks ++ mark ++ name ++ colon ++ type ++ value⟩
  else if ← looking fun ts => blanks && startsWithWord "_" ts then
    let name ← anyWord
    return ⟨false, marks ++ name⟩
  else
    let name ← name
    let bounds ← formIf (startsWith ":") (typeBounds rules fun ts => ends ts || startsWith "=" ts)
    let value ← formIf (startsWith "=") (both (symbol "=") rules.type)
    return ⟨false, marks ++ name ++ bounds ++ value⟩

/-- What a type or a trait is for, in the order it stands in. -/
def binder : Form := do
  let mark ← word "for"
  let left ← symbol "<"
  let parameters ← listUntil (startsWith ">") "," (Parameter.tokens <$> parameter rules false)
  let right ← symbol ">"
  return mark ++ left ++ parameters ++ right

/-- The parameters of a declaration. -/
def parameters : Form := formIf (startsWith "<") do
  let left ← symbol "<"
  let entries ← entriesUntil (startsWith ">") "," fun _ => parameter rules true
  let right ← symbol ">"
  return if entries.isEmpty then [] else left ++ ordered entries ++ right

/-- Parameters stand at the start, and no path that goes out from a type. -/
def startsWithParameters (ts : List Token) : Bool :=
  let inner := behind ts
  let next := behind inner
  let named := startsWithLifetime inner || startsWithName inner
  startsWith "<" ts && (startsWith ">" inner || startsWith "#" inner || startsWithWord "const" inner
    || (named && (startsWith ">" next || startsWith "," next || startsWithColon next
      || startsWith "=" next)))

/-- What is asked of one type or lifetime. -/
def predicate : Form := do
  if ← looking fun ts => startsWithLifetime ts && startsWith ":" (behind ts) then
    let name ← lifetime
    let mark ← symbol ":"
    let stop := fun ts => endsBounds ts || startsWith ":" ts
    let bounds ← entryTokens <$> chainUntil stop "+" lifetime
    return name ++ mark ++ bounds
  else
    let names ← formIf (startsWithWord "for") (binder rules)
    let type ← rules.type
    let mark ← symbol ":"
    let bounds ← entryTokens <$> chainUntil endsBounds "+" (rules.form (.bound false true))
    return names ++ type ++ mark ++ bounds

/-- What is asked of types, behind the parameters. -/
def predicates : Form := formIf (startsWithWord "where") do
  let mark ← anyWord
  let entries ← entryTokens <$> chainUntil endsBounds "," (predicate rules)
  return if entries.isEmpty then [] else mark ++ entries

/-! ## Bounds -/

/-- What a type captures. -/
def captures : Form := do
  let mark ← word "use"
  let left ← symbol "<"
  let parameters ← entriesUntil (startsWith ">") "," fun _ => do
    if ← looking startsWithLifetime then Parameter.mk true <$> lifetime
    else Parameter.mk false <$> wordWhere fun name => isPlainName name || name == "Self"
  let right ← symbol ">"
  return mark ++ left ++ ordered parameters ++ right

/-- A trait, for all of some parameters, or perhaps not. One for constant evaluation is kept as it
stands. -/
def traitBound (constants : Bool) : Reader Written := do
  let start ← get
  let names ← formIf (startsWithWord "for") (binder rules)
  let mark ← if ← looking (startsWithBracket .square) then inside .square (word "const")
    else word? "const"
  demand (constants || mark.isEmpty)
  let doubt ← symbol? "?"
  demand (names.isEmpty || doubt.isEmpty)
  let trait ← Written.tokens <$> path rules false
  let written ← match withoutArguments? trait with
    | some plain =>
      if ← looking startsWithInputs then
        let inputs ← inputs rules
        let output ← output rules false
        pure (plain ++ inputs ++ output)
      else pure trait
    | none => pure trait
  if mark.isEmpty then
    let tokens := names ++ doubt ++ written
    return ⟨tokens, .bound tokens, false⟩
  else
    let tokens ← since start
    return ⟨tokens, .verbatim, false⟩

/-- Something asked of a type. -/
def boundForm (capturing constants : Bool) : Reader Written := do
  if ← looking startsWithLifetime then Written.mk <$> lifetime <*> pure .plain <*> pure false
  else if ← looking (startsWithWord "use") then
    demand capturing
    let tokens ← captures
    return ⟨tokens, .plain, false⟩
  else if ← looking (startsWithBracket .round) then
    let start ← get
    let left ← opening .round
    let trait ← traitBound rules constants
    let right ← closing .round
    let tokens ← if trait.kind = .verbatim then since start
      else pure (left ++ trait.tokens ++ right)
    return { trait with tokens }
  else traitBound rules constants

/-- The bounds of a type, of which one is a trait. -/
def boundSum (capturing constants plus : Bool) : Form := do
  let bound := rules (.bound capturing constants)
  let entries ← if plus then chainUntil (!startsWithBound constants ·) "+" bound
    else (fun b => [Entry.mk b []]) <$> bound
  demand (entries.any (·.item.kind != .plain))
  return entries.flatMap fun e => e.item.tokens ++ e.separator

/-- Further bounds behind a path; a last plus may stand alone. -/
def furtherBounds : Form :=
  formIf (startsWith "+") (both (symbol "+")
    (entryTokens <$> chainUntil (!startsWithBound false ·) "+" (rules.form (.bound false false))))

/-! ## Arguments -/

/-- An argument in angle brackets. -/
def argument : Reader Parameter := do
  if ← looking fun ts => startsWithLifetime ts && !startsWith "+" (behind ts) then
    Parameter.mk true <$> lifetime
  else
    let constant? := fun ts => startsWithLiteral ts || startsWithBracket .curly ts
    Parameter.mk false <$> do
      if ← looking constant? then constant rules
      else
        let type ← rules (.type true)
        if type.kind = .name && (← looking (startsWith "=")) then
          let mark ← symbol "="
          let value ← if ← looking constant? then constant rules else rules.type
          return type.tokens ++ mark ++ value
        else if type.kind = .name && (← looking (startsWith ":")) then
          let mark ← symbol ":"
          let bounds ← entryTokens <$> chainUntil (fun ts => startsWith "," ts || startsWith ">" ts)
            "+" (rules.form (.bound false true))
          return type.tokens ++ mark ++ bounds
        else return type.tokens

/-- Arguments in angle brackets. -/
def arguments : Form := do
  let left ← symbol "<"
  let entries ← entriesUntil (startsWith ">") "," fun _ => argument rules
  let right ← symbol ">"
  return left ++ ordered entries ++ right

end CommandForge.Declaration.Grammar
