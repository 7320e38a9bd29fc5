import CommandForge.Declaration.Grammar.Path
/-!
# Attributes

A number sign with a path in square brackets. Behind the path brackets or a value may stand.
Attributes of what they stand inside of have an exclamation mark.
-/

namespace CommandForge.Declaration.Grammar

variable (rules : Rules)

/-- What stands in the brackets of an attribute. -/
def attributeContent : Form := do
  let path ← if ← looking (startsWithWord "unsafe") then anyWord else modulePath
  if ← looking startsWithOpening then
    let inner ← bracketed
    return path ++ inner
  else if ← looking (startsWith "=") then
    let mark ← symbol "="
    demand !(← looking fun ts => startsWith "#" ts && startsWithBracket .square (behind ts))
    let value ← rules.value
    return path ++ mark ++ value
  else return path

/-- The attributes in front of something. -/
def attributes : Form :=
  whileForm (startsWith "#") (both (symbol "#") (inside .square (attributeContent rules)))

/-- The attributes at the start of what they are about. -/
def innerAttributes : Form :=
  whileForm (fun ts => startsWith "#" ts && startsWith "!" (behind ts)) do
    let mark ← symbol "#"
    let bang ← symbol "!"
    let content ← inside .square (attributeContent rules)
    return mark ++ bang ++ content

/-- Statements in curly brackets with attributes in front of them. -/
def attributedBlock : Form :=
  inside .curly (both (innerAttributes rules) (rules.form .statements))

end CommandForge.Declaration.Grammar
