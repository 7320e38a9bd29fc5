/-!
# TOML values

What the statements of a text make up together is a table. Tables remember how they came about,
since that decides what may still be added to them. Numbers, dates and times are read and checked,
but no setting has such a value, so it is not kept.
-/

namespace CommandForge

/-- How a table came about. -/
inductive TableOrigin where
  /-- It has a header of its own, or is the document itself. -/
  | header
  /-- It is on the way to a table with a header. -/
  | implied
  /-- It is on the way to a value with a dotted key. -/
  | dotted
  /-- It is written between braces, and complete. -/
  | inline
  deriving DecidableEq, Repr

/-- A TOML value. -/
inductive Toml where
  | string (s : String)
  | bool (b : Bool)
  /-- A number, a date or a time. -/
  | other
  /-- A number that nothing can hold. -/
  | outOfRange
  | array (items : List Toml)
  | table (origin : TableOrigin) (entries : List (String × Toml))
  /-- An array of tables: the table that was opened last, and those before it. -/
  | tables (latest : List (String × Toml)) (earlier : List (List (String × Toml)))

namespace Toml

/-- The entries of a table, each key once, in the order in which the keys came up. -/
abbrev Entries := List (String × Toml)

/-- The value of a key. -/
def entry? (key : String) (entries : Entries) : Option Toml := entries.lookup key

/-- A key: the keys on the way, and the last one. -/
structure Key where
  path : List String
  last : String
  deriving DecidableEq, Repr

/-- Why a text is no table. -/
inductive Fault where
  /-- It is not TOML, or its statements do not go together. -/
  | malformed
  /-- A key has too many parts. -/
  | longKey
  deriving DecidableEq, Repr

/-- The greatest number of arrays and tables inside one another, and of parts of a key. -/
def maxDepth : Nat := 80

end Toml

end CommandForge
