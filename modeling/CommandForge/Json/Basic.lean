import CommandForge.Number.Binary64
/-!
# JSON values

A value of the data format, with the members of an object in order. Whole numbers within 64 bits
stay whole; every other number is a double.
-/

namespace CommandForge

/-- A number of a JSON text. -/
inductive JsonNumber where
  | int (n : Int)
  | real (x : Binary64)
  deriving DecidableEq, Repr

/-- A JSON value. -/
inductive Json where
  | null
  | bool (b : Bool)
  | number (n : JsonNumber)
  | string (s : String)
  | array (items : List Json)
  | object (members : List (String × Json))
  deriving Repr

namespace Json

/-- The value is null. -/
def isNull : Json → Bool
  | .null => true
  | _ => false

/-- The value of the member named `key`. -/
def member? (key : String) : List (String × Json) → Option Json
  | [] => none
  | (k, v) :: rest => if k = key then some v else member? key rest

/-- Gives `key` the value `v`: in its place when it has one, else behind all others. -/
def put (key : String) (v : Json) : List (String × Json) → List (String × Json)
  | [] => [(key, v)]
  | (k, w) :: rest => if k = key then (k, v) :: rest else (k, w) :: put key v rest

/-- Written members as those of an object: a repeated key keeps its first place and takes its last
value. -/
def ofWritten (written : List (String × Json)) : List (String × Json) :=
  written.foldl (fun members (k, v) => put k v members) []

end Json

end CommandForge
