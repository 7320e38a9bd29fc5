import CommandForge.Text.Quoted
/-!
# Identifiers of a schema

A command or field name in a schema is an ASCII letter followed by ASCII letters and digits.
`Identifier.check` decides that and names the first thing wrong.
-/

namespace CommandForge

/-- Why a text is no identifier. -/
inductive IdentifierFault where
  | empty
  | firstNotLetter
  | unexpected (c : Char)
  deriving DecidableEq, Repr

/-- A text that was expected to be an identifier, and why it is none. -/
structure InvalidIdentifier where
  text : String
  fault : IdentifierFault
  deriving DecidableEq, Repr

/-- The fault in words. -/
def IdentifierFault.message : IdentifierFault → String
  | .empty => "identifier is empty"
  | .firstNotLetter => "identifier must start with an ASCII letter"
  | .unexpected c => "unexpected character " ++ Text.quotedChar c

/-- The complaint in words. -/
def InvalidIdentifier.message (e : InvalidIdentifier) : String :=
  "invalid identifier " ++ Text.quoted e.text ++ ": " ++ e.fault.message

namespace Identifier

/-- What keeps `cs` from being an identifier, if anything. -/
def fault? : List Char → Option IdentifierFault
  | [] => some .empty
  | c :: cs =>
    if !c.isAlpha then some .firstNotLetter
    else (cs.find? fun d => !d.isAlphanum).map .unexpected

/-- Accepts identifiers only. -/
def check (s : String) : Except InvalidIdentifier Unit :=
  match fault? s.toList with
  | some fault => .error ⟨s, fault⟩
  | none => .ok ()

theorem fault?_eq_none_iff (c : Char) (cs : List Char) :
    fault? (c :: cs) = none ↔ c.isAlpha = true ∧ ∀ d ∈ cs, d.isAlphanum = true := by
  by_cases h : c.isAlpha <;> simp [fault?, h]

end Identifier

end CommandForge
