import CommandForge.Declaration.AttributePath
/-!
# Declared types

A type declaration as far as making it a command looks at it: its name, its fields, and the
attributes of both.
-/

namespace CommandForge

/-- What stands between the parentheses of an attribute. -/
inductive AttributeItem where
  /-- A key with a text. -/
  | text (key value : String)
  /-- A key with a number. -/
  | number (key : String)
  /-- A key with further items between parentheses. -/
  | list (key : String) (items : List AttributeItem)
  | bare (key : String)
  /-- Something that is no item. -/
  | junk
  deriving Repr

/-- An attribute, without items if it has no parentheses. -/
structure Attribute where
  path : String
  items : List AttributeItem := []
  deriving Repr

mutual

/-- Every key of the item is made of tokens. -/
def AttributeItem.isWellFormed : AttributeItem → Bool
  | .text key _ | .number key | .bare key => (Declaration.inlineTokens? key).isSome
  | .list key items => (Declaration.inlineTokens? key).isSome && areWellFormed items
  | .junk => true

/-- Every key of the items is made of tokens. -/
def AttributeItem.areWellFormed : List AttributeItem → Bool
  | [] => true
  | item :: items => item.isWellFormed && areWellFormed items

end

namespace Attribute

/-- The attribute has a path, and what stands between its parentheses is made of tokens. -/
def isWellFormed (a : Attribute) : Bool :=
  Declaration.isAttributePath a.path && AttributeItem.areWellFormed a.items

/-- The path of the attribute is the word. -/
def isFor (a : Attribute) (word : String) : Bool :=
  Declaration.inlineTokens? a.path == some [.ident word]

end Attribute

/-- The text names a field: an identifier, or an underscore. -/
def Declaration.isFieldName (s : String) : Bool :=
  (ident? s).isSome || inlineTokens? s == some [.ident "_"]

/-- A field with its attributes. -/
structure DeclaredField where
  name : String
  attributes : List Attribute := []
  deriving Repr

/-- The kinds of type declarations. -/
inductive DeclarationShape where
  /-- A struct with named fields. -/
  | named
  /-- A struct whose fields have no names. -/
  | tuple
  /-- A struct without fields. -/
  | unit
  | variants
  deriving DecidableEq, Repr

/-- The declaration of a type, with one type parameter if it is generic. -/
structure Declaration where
  name : String
  isGeneric : Bool := false
  shape : DeclarationShape := .named
  attributes : List Attribute := []
  fields : List DeclaredField := []
  deriving Repr

end CommandForge
