/-
  Typewright/Schema/Shape.lean
  ============================
  **Shapes of fields** — the way in which a node standing as a field is given a
  type.

  A reference wins over everything else in its node; then several concrete
  types, then the one concrete type name, and last the properties of a node
  without a type.
-/
import Typewright.Schema.Node

namespace Typewright

inductive Scalar where
  | string
  | int32
  | int64
  | double
  | boolean
deriving DecidableEq

def Scalar.text : Scalar → String
  | .string => "String"
  | .int32 => "i32"
  | .int64 => "i64"
  | .double => "f64"
  | .boolean => "bool"

/-- How a field gets its type. -/
inductive Shape where
  /-- From the registry model it refers to. -/
  | reference
  /-- As a single value. -/
  | scalar (type : Scalar)
  /-- As a list or a tuple. -/
  | array
  /-- As a record. -/
  | object
  /-- As a map from names to values of the node. -/
  | mapValue
  /-- As one of several types. -/
  | union
  /-- In no way that is known. -/
  | unknown
deriving DecidableEq

def Shape.ofTypeName (name : String) : Shape :=
  if name = "string" then .scalar .string
  else if name = "integer" ∨ name = "int32" then .scalar .int32
  else if name = "int64" ∨ name = "long" then .scalar .int64
  else if name = "number" then .scalar .double
  else if name = "boolean" then .scalar .boolean
  else if name = "array" then .array
  else if name = "object" then .object
  else .unknown

def Shape.scalarText : Shape → Option String
  | .scalar type => some type.text
  | _ => none

/-- The shape of a node as a field; never `mapValue`, which only the place of a
    field can ask for. -/
def Node.shape (node : Node) : Shape :=
  if node.reference.isSome then .reference
  else if node.kind = .union then .union
  else
    match node.concreteType with
    | some name => Shape.ofTypeName name
    | none => if node.properties.isSome then .object else .unknown

end Typewright
