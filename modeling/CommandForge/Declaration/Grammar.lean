import CommandForge.Declaration.Grammar.Statement
/-!
# The grammar

The rules tied together. Every rule takes one unit of fuel for each form inside it; forms inside one
another that start at the same token are fewer than sixteen.
-/

namespace CommandForge.Declaration.Grammar

/-- Reads a form with what reads the forms inside it. -/
def formRule (rules : Rules) : Rules := fun n =>
  let plain (form : Form) : Reader Written := (⟨·, .plain, false⟩) <$> form
  match n with
  | .type plus => typeForm rules plus
  | .angled => plain (arguments rules)
  | .bound capturing constants => boundForm rules capturing constants
  | .value braces => do
    let first ← rules (.operand braces)
    rules (.operations first .jump braces)
  | .operand braces => operand rules braces
  | .operations left level braces => operations rules left level braces
  | .statementValue => statementValue rules
  | .conditional => plain (conditional rules)
  | .pattern => patternForm rules
  | .statements => plain (statements rules)
  | .item => plain (item rules)
  | .fields => plain (namedFields rules)
  | .useTree root => useTree rules root

/-- Reads forms that are not nested more deeply than there is fuel. -/
def grammar : (fuel : Nat) → Rules
  | 0 => fun _ => failure
  | fuel + 1 => fun n => formRule (grammar fuel) n

/-- The tokens of a text that is a path, in the spacing they are written with. -/
def path? (s : String) : Option (List Token) := do
  let ts ← tokens? s
  match ← path (grammar (16 * (ts.length + 1))) false ts with
  | (written, []) => some written.tokens
  | _ => none

end CommandForge.Declaration.Grammar
