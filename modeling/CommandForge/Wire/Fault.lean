import CommandForge.Identifier.Basic
import CommandForge.Json.Printer
/-!
# Faults of the wire format

What the JSON layer refuses, and what a codec makes of it. A fault of the JSON layer has a
category; a fault met while writing or reading a text is counted as a decoding failure unless its
category is the device's.
-/

namespace CommandForge

/-- What the JSON layer refuses. -/
inductive JsonFault where
  /-- The text is no JSON text. -/
  | malformed
  /-- A value of another kind was wanted. -/
  | wrongType (found : Json) (want : String)
  /-- A whole number outside the wanted range. -/
  | outOfRange (n : Int) (want : String)
  | missingField (key : String)
  /-- A member's key would not be a string. -/
  | keyNotString
  /-- A type's own way of writing its values refused. -/
  | raised (message : String)
  /-- The device that a text is written to failed. -/
  | device (message : String)

/-- The kinds of faults that the JSON layer tells apart. -/
inductive JsonFault.Category where
  | text
  | data
  | device
  deriving DecidableEq, Repr

namespace JsonFault

/-- The category of a fault. A key that is no string counts as a fault of the text. -/
def category : JsonFault → Category
  | .malformed | .keyNotString => .text
  | .wrongType .. | .outOfRange .. | .missingField _ | .raised _ => .data
  | .device _ => .device

/-- What was found, in words. -/
def describe : Json → String
  | .null => "null"
  | .bool b => "boolean `" ++ (if b then "true" else "false") ++ "`"
  | .number (.int n) => "integer `" ++ String.ofList (Number.intDigits n) ++ "`"
  | .number (.real x) => "floating point `" ++ String.ofList (x.text Json.floatFormat) ++ "`"
  | .string s => "string " ++ Text.quoted s
  | .array _ => "sequence"
  | .object _ => "map"

/-- The fault in words. -/
def message : JsonFault → String
  | .malformed => "<json>"
  | .wrongType found want => "invalid type: " ++ describe found ++ ", expected " ++ want
  | .outOfRange n want =>
    "invalid value: " ++ describe (.number (.int n)) ++ ", expected " ++ want
  | .missingField key => "missing field `" ++ key ++ "`"
  | .keyNotString => "key must be a string"
  | .raised message | .device message => message

end JsonFault

/-- Why a text could not be decoded. -/
inductive DecodeFault where
  | json (fault : JsonFault)
  | notObject (commandName : String) (found : Json)

/-- Why a command could not be encoded. -/
inductive EncodeFault where
  | json (fault : JsonFault)
  | notObject (commandName : String)

/-- Why a name, a text or a command was refused. -/
inductive CommandError where
  | invalidIdentifier (e : InvalidIdentifier)
  | decode (fault : DecodeFault)
  | encode (fault : EncodeFault)

/-- The kind of a value, in words. -/
def Json.kind : Json → String
  | .null => "null"
  | .bool _ => "a boolean"
  | .number _ => "a number"
  | .string _ => "a string"
  | .array _ => "an array"
  | .object _ => "an object"

namespace CommandError

/-- What a fault of the JSON layer counts as when its direction is not known. -/
def ofJson (fault : JsonFault) : CommandError :=
  match fault.category with
  | .text | .data => .decode (.json fault)
  | .device => .encode (.json fault)

/-- The error in words. -/
def message : CommandError → String
  | .invalidIdentifier e => e.message
  | .decode (.json fault) => "decode error: " ++ fault.message
  | .decode (.notObject commandName found) =>
    "decode error: expected a JSON object for " ++ commandName ++ ", found " ++ found.kind
  | .encode (.json fault) => "encode error: " ++ fault.message
  | .encode (.notObject commandName) =>
    "encode error: " ++ commandName ++ " does not serialize to a JSON object"

end CommandError

end CommandForge
