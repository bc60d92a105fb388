/-
  Typewright/Types/TypeExpr.lean
  ==============================
  **Type expressions** — the types of fields, slots and map values in the
  generated code.

  A generated type is named by its path in the package or, next to its user, by
  its name alone.  Fields hold generated types in boxes only, so a type never
  contains itself.
-/
import Typewright.Schema.Shape

namespace Typewright

inductive TypeExpr where
  | scalar (type : Scalar)
  /-- Any JSON value. -/
  | dynamic
  | list (item : TypeExpr)
  /-- A map from names. -/
  | map (value : TypeExpr)
  | option (inner : TypeExpr)
  | boxed (inner : TypeExpr)
  /-- A generated type, named from the root of the package. -/
  | model (name : String)
  /-- A generated type of the same file. -/
  | sibling (name : String)
deriving DecidableEq

namespace TypeExpr

def text : TypeExpr → String
  | .scalar type => type.text
  | .dynamic => "serde_json::Value"
  | .list item => "Vec<" ++ item.text ++ ">"
  | .map value => "std::collections::HashMap<String, " ++ value.text ++ ">"
  | .option inner => "Option<" ++ inner.text ++ ">"
  | .boxed inner => "Box<" ++ inner.text ++ ">"
  | .model name => "crate::" ++ name
  | .sibling name => name

/-- What stands in a box, by the text of a type: `Box<` and `>` are taken off. -/
def unboxed? (text : String) : Option String :=
  match text.toList with
  | 'B' :: 'o' :: 'x' :: '<' :: rest =>
    if rest.getLast? = some '>' then some (String.ofList rest.dropLast) else none
  | _ => none

end TypeExpr

end Typewright
