import CommandForge.Declaration.Grammar
import CommandForge.Declaration.Settings
import CommandForge.Identifier.Words
/-!
# Making a declared type a command

A struct with named fields becomes a command by an implementation of the command trait, which gives
it its normalized name. Keys are matched in lowercase when commands are decoded, so a name that
serde would write in another way is refused.
-/

namespace CommandForge

/-- A name for serde that no decoder would find. -/
inductive NameComplaint where
  /-- A rule for all names that does not keep them lowercase. -/
  | rule (value : String)
  /-- A name that is not lowercase. -/
  | name (value : String)
  deriving DecidableEq, Repr

open Text (quoted) in
/-- The complaint in words. -/
def NameComplaint.message : NameComplaint → String
  | .rule value =>
    "cannot derive Command: rename_all = " ++ quoted value
      ++ " produces keys that are not lowercase"
  | .name value => "cannot derive Command: serde name " ++ quoted value ++ " is not lowercase"

/-- Why a declaration does not become a command. -/
inductive ImplementFault where
  /-- It is no declaration: its name, or that of a field, is no identifier. -/
  | malformed
  /-- It is no struct with named fields, or what it says about commands is wrong. -/
  | badOptions
  | badNames (complaints : List NameComplaint)
  | invalidName (e : InvalidIdentifier)
  deriving DecidableEq, Repr

/-- What is said about a refused declaration that is well-formed. -/
def ImplementFault.messages : ImplementFault → List String
  | .malformed | .badOptions => []
  | .badNames complaints => complaints.map NameComplaint.message
  | .invalidName e => ["cannot derive Command: " ++ e.message]

namespace Declaration

/-- The fields are written with their names and attributes. -/
def hasNamedFields (d : Declaration) : Bool := d.shape == .named || d.shape == .variants

/-- The attributes that are written: fields have theirs where they have names. -/
def writtenAttributes (d : Declaration) : List Attribute :=
  d.attributes ++ if d.hasNamedFields then d.fields.flatMap (·.attributes) else []

/-- Every name is an identifier, and every attribute has a path and holds tokens. The name of a
field can be an underscore. -/
def isWellFormed (d : Declaration) : Bool :=
  (ident? d.name).isSome
    && d.writtenAttributes.all Attribute.isWellFormed
    && (!d.hasNamedFields || d.fields.all fun f => isFieldName f.name)

/-- The text is the key that names the crate. -/
def isCrateKey (key : String) : Bool :=
  (inlineTokens? key).map behindColons == some [.ident "crate"]

/-- The crate path that an item gives, if it is one. -/
def cratePath? : AttributeItem → Option (List Token)
  | .text key value => if isCrateKey key then Grammar.path? value else none
  | _ => none

/-- The crate path that items give, behind the one that is known. It can be given once, and nothing
else can. -/
def cratePathOf (known : Option (List Token)) : List AttributeItem → Option (Option (List Token))
  | [] => some known
  | item :: rest =>
    match known, cratePath? item with
    | none, some path => cratePathOf (some path) rest
    | _, _ => none

/-- What a declaration says about commands: the path of their crate, if it gives one. None when
it is wrong. -/
def options? (d : Declaration) : Option (Option (List Token)) :=
  if d.shape = .named then
    cratePathOf none ((d.attributes.filter (·.isFor "command")).flatMap (·.items))
  else none

/-- Rules for all names that keep them lowercase. -/
def lowercaseRules : List String := ["lowercase", "snake_case", "kebab-case"]

/-- The names for serde that no decoder would find. -/
def complaints (d : Declaration) : List NameComplaint :=
  (d.ownSettings.filterMap fun s =>
    if s.key = "rename_all" ∧ s.value ∉ lowercaseRules then some (.rule s.value) else none)
  ++ d.fieldSettings.filterMap fun s =>
    if s.key = "rename" ∧ s.value ≠ Text.lowercase s.value then some (.name s.value) else none

/-- The name of a type without the mark of a raw identifier. -/
def plainName (name : String) : String :=
  match name.toList with
  | 'r' :: '#' :: rest => String.ofList rest
  | _ => name

/-- The path of the crate that holds the command trait unless another is given. -/
def defaultCrate : List Token := colons ++ [.ident "cmdgen"]

/-- The implementation as tokens with single spaces between them. -/
def implementation (name : String) (isGeneric : Bool) (crate : List Token)
    (commandName : String) : String :=
  let parameters := if isGeneric then " < T >" else ""
  "impl" ++ parameters ++ " " ++ tokensText crate ++ " :: Command for " ++ name ++ parameters
    ++ " \x7b const COMMAND_NAME : & 'static str = \"" ++ commandName ++ "\" ; \x7d"

/-- The implementation that makes a declared type a command. -/
def implement (d : Declaration) : Except ImplementFault String :=
  match ident? d.name with
  | none => .error .malformed
  | some name =>
    if !d.isWellFormed then .error .malformed
    else
      match d.options? with
      | none => .error .badOptions
      | some crate =>
        if d.complaints.isEmpty then
          match Identifier.normalize (plainName name) with
          | .error e => .error (.invalidName e)
          | .ok commandName =>
            .ok (implementation name d.isGeneric (crate.getD defaultCrate) commandName)
        else .error (.badNames d.complaints)

end Declaration

end CommandForge
