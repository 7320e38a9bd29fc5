import CommandForge.Declaration.Basic
/-!
# Settings in attributes

The texts that attributes give to keys. Reading an attribute stops at the first thing in it that
cannot be read, and keeps what stands before that.
-/

namespace CommandForge

/-- A text that an attribute gives to a key. -/
structure Setting where
  key : String
  value : String
  deriving DecidableEq, Repr

namespace AttributeItem

/-- The key as it is written. -/
def key : AttributeItem → String
  | .text key _ | .number key | .list key _ | .bare key => key
  | .junk => ""

/-- The settings of items inside the list of the key `outer`, and whether all of them can be read.
A list in there cannot. -/
def innerSettings (outer : String) : List AttributeItem → List Setting × Bool
  | [] => ([], true)
  | item :: rest =>
    if (Declaration.attributeKey? item.key).isNone then ([], false)
    else
      match item with
      | .text _ value =>
        let (settings, readable) := innerSettings outer rest
        (⟨outer, value⟩ :: settings, readable)
      | .number _ | .bare _ => innerSettings outer rest
      | .list .. | .junk => ([], false)

/-- The settings of items up to the first that cannot be read. Those of a list have its key; an
empty list cannot be read. -/
def settings : List AttributeItem → List Setting
  | [] => []
  | item :: rest =>
    match Declaration.attributeKey? item.key with
    | none => []
    | some key =>
      match item with
      | .text _ value => ⟨key, value⟩ :: settings rest
      | .number _ | .bare _ => settings rest
      | .list _ items =>
        if items.isEmpty then []
        else
          let (inner, readable) := innerSettings key items
          inner ++ if readable then settings rest else []
      | .junk => []

end AttributeItem

/-- The settings of the attributes that are meant for serde. -/
def Attribute.settings (attributes : List Attribute) : List Setting :=
  attributes.flatMap fun a => if a.isFor "serde" then AttributeItem.settings a.items else []

namespace Declaration

/-- The settings of a declaration's own attributes. -/
def ownSettings (d : Declaration) : List Setting := Attribute.settings d.attributes

/-- The settings of the attributes of all fields, in order. -/
def fieldSettings (d : Declaration) : List Setting :=
  d.fields.flatMap fun f => Attribute.settings f.attributes

/-- All settings, those of the declaration first. -/
def settings (d : Declaration) : List Setting := d.ownSettings ++ d.fieldSettings

end Declaration

end CommandForge
