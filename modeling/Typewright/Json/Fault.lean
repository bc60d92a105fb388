/-
  Typewright/Json/Fault.lean
  ==========================
  **What can be wrong with a JSON text** — it is not JSON, it ends too early, or
  it is JSON of another shape than was asked for.
-/
import Typewright.Json.Printer

namespace Typewright

inductive Mismatch where
  /-- Another kind of value was expected. -/
  | wrongType (found : Json) (expected : String)
  /-- No alternative of a union takes the value. -/
  | noVariant (union : String)
  /-- A field is given twice. -/
  | duplicateField (name : String)
  /-- A word that is not one of the names of an enumeration. -/
  | unknownVariant (found expected : String)

inductive ReadFault where
  /-- The text breaks the grammar, or holds what no value can. -/
  | malformed
  /-- The text ends inside a value. -/
  | truncated
  /-- The value read so far has the wrong shape. -/
  | mismatch (cause : Mismatch)

def Json.describe : Json → String
  | .null => "null"
  | .bool true => "boolean `true`"
  | .bool false => "boolean `false`"
  | .number (.whole n) => "integer `" ++ toString n ++ "`"
  | .number (.real x) => "floating point `" ++ x.text JsonNumber.layout ++ "`"
  | .string s => "string " ++ Text.Literal.quote s
  | .array _ => "sequence"
  | .object _ => "map"

def Mismatch.message : Mismatch → String
  | .wrongType found expected => "invalid type: " ++ found.describe ++ ", expected " ++ expected
  | .noVariant union => "data did not match any variant of untagged enum " ++ union
  | .duplicateField name => "duplicate field `" ++ name ++ "`"
  | .unknownVariant found expected =>
    "unknown variant `" ++ found ++ "`, expected `" ++ expected ++ "`"

end Typewright
