import CommandForge.Toml.Basic
/-!
# TOML documents

The statements of a text make up one table. No table has two headers, and no key two values; what a
header or a dotted key leads through is made where it is missing. A document that nothing was added
to in vain can still hold numbers that are out of range.
-/

namespace CommandForge.Toml

/-! ## Keys and values -/

/-- Changes the value of a key, or gives it its first; none when `f` refuses. -/
def adjust (key : String) (f : Option Toml → Option Toml) : Entries → Option Entries
  | [] => (f none).map fun v => [(key, v)]
  | (k, w) :: rest =>
    if k = key then (f (some w)).map fun v => (k, v) :: rest
    else (adjust key f rest).map ((k, w) :: ·)

/-- Gives a key that has none a value. -/
def putNew (key : String) (v : Toml) (entries : Entries) : Option Entries :=
  adjust key (fun old => if old.isNone then some v else none) entries

/-- Gives a dotted key a value. A table on the way is made, was made in this way or on the way to a
header, or is the last one of an array of tables; the last table on the way was made in this way. -/
def putDotted (origin : TableOrigin) (last : String) (v : Toml) :
    List String → Entries → Option Entries
  | [], entries => if origin = .dotted then putNew last v entries else none
  | key :: path, entries =>
    adjust key (fun old =>
      match old with
      | none => (putDotted .dotted last v path []).map (.table .dotted)
      | some (.table origin inner) =>
        if origin = .dotted ∨ origin = .implied then
          (putDotted origin last v path inner).map (.table origin)
        else none
      | some (.tables latest earlier) =>
        (putDotted .header last v path latest).map (.tables · earlier)
      | some _ => none) entries

/-- Gives a key in a table a value. -/
def putValue (key : Key) (v : Toml) (entries : Entries) : Option Entries :=
  if key.path.isEmpty then putNew key.last v entries
  else putDotted .header key.last v key.path entries

/-! ## Headers -/

/-- Applies `f` to the table that a header's path leads to. A path leads through the last table of
an array of tables, but not into a table between braces. -/
def within (f : Entries → Option Entries) : List String → Entries → Option Entries
  | [], entries => f entries
  | key :: path, entries =>
    adjust key (fun old =>
      match old with
      | none => (within f path []).map (.table .implied)
      | some (.table origin inner) =>
        if origin = .inline then none else (within f path inner).map (.table origin)
      | some (.tables latest earlier) => (within f path latest).map (.tables · earlier)
      | some _ => none) entries

/-- Opens a table under a key; one that a path led through is taken over. -/
def openTable (key : String) (entries : Entries) : Option Entries :=
  adjust key (fun old =>
    match old with
    | none => some (.table .header [])
    | some (.table .implied inner) => some (.table .header inner)
    | some _ => none) entries

/-- Opens a further table in an array of tables. -/
def openFurther (key : String) (entries : Entries) : Option Entries :=
  adjust key (fun old =>
    match old with
    | none => some (.tables [] [])
    | some (.tables latest earlier) => some (.tables [] (latest :: earlier))
    | some _ => none) entries

/-! ## Numbers out of range -/

mutual

/-- No number in the value is out of range. -/
def inRange : Toml → Bool
  | .outOfRange => false
  | .string _ | .bool _ | .other => true
  | .array items => areInRange items
  | .table _ entries => entriesInRange entries
  | .tables latest earlier => entriesInRange latest && tablesInRange earlier

/-- No number in the values is out of range. -/
def areInRange : List Toml → Bool
  | [] => true
  | v :: vs => v.inRange && areInRange vs

/-- No number in the entries is out of range. -/
def entriesInRange : Entries → Bool
  | [] => true
  | (_, v) :: rest => v.inRange && entriesInRange rest

/-- No number in the tables is out of range. -/
def tablesInRange : List Entries → Bool
  | [] => true
  | t :: ts => entriesInRange t && tablesInRange ts

end

end CommandForge.Toml
