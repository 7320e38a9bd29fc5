import CommandForge.Declaration.Reader
/-!
# Names in attributes

The path of an attribute, and the keys between its parentheses: words with double colons between
them.
-/

namespace CommandForge.Declaration

/-- The tokens are words with double colons between them, keywords included. -/
def isWordPath : List Token → Bool
  | [.ident _] => true
  | .ident _ :: .punct ':' true :: .punct ':' _ :: rest => isWordPath rest
  | _ => false

/-- The tokens behind a double colon, if there is one at the start. -/
def behindColons (ts : List Token) : List Token := (dropSymbol? [':', ':'] ts).getD ts

/-- The key that a text in an attribute is: a single word by its name, a longer path without one;
none if the text is neither. -/
def attributeKey? (s : String) : Option String :=
  match inlineTokens? s with
  | some [.ident name] => some name
  | some ts => if isWordPath (behindColons ts) then some "" else none
  | none => none

/-- The text is the path of an attribute: words that are no keywords but for those that lead into a
module. -/
def isAttributePath (s : String) : Bool :=
  match inlineTokens? s with
  | some [.ident "unsafe"] => true
  | some ts =>
    isWordPath (behindColons ts) && ts.all fun t =>
      match t with
      | .ident name => isPlainName name || ["super", "self", "Self", "crate"].contains name
      | _ => true
  | none => false

end CommandForge.Declaration
