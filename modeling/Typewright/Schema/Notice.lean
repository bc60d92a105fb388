/-
  Typewright/Schema/Notice.lean
  =============================
  **Notices** — what is reported while models are read and rendered.

  Rendering never fails.  Where a schema cannot be expressed, the result is less
  exact and a warning says so.
-/
import Typewright.Schema.Node

namespace Typewright

inductive Level where
  | debug
  | warn
deriving DecidableEq

inductive Notice where
  /-- An inner node became a registry entry. -/
  | hoisted (id : String)
  /-- A reference to a model that is not there. -/
  | dangling (reference : String)
  /-- A value of several types is rendered as best it can. -/
  | polymorphic (name : String)
  /-- A field whose type is not known is left dynamic. -/
  | unhandled (name : String)
  /-- Two schemas want one type name; the first has it. -/
  | nameTaken (type field owner : String)
  /-- Nothing is rendered for a model of this kind. -/
  | notRendered (kind : Kind) (id : String)
deriving DecidableEq

namespace Notice

def level : Notice → Level
  | .hoisted _ | .dangling _ => .debug
  | _ => .warn

def message : Notice → String
  | .hoisted id => "Hoisting nested model '" ++ id ++ "' into registry"
  | .dangling reference => "Reference '" ++ reference ++ "' is not in the input model"
  | .polymorphic name =>
    "Polymorphic and union types are not fully supported by the Rust generator. " ++ name
      ++ " output will be unstable!"
  | .unhandled name =>
    "Unsure how to handle " ++ name
      ++ ", so you must implement serialization (e.g From<serde_json::Value>) for it."
  | .nameTaken type field owner =>
    "Type " ++ type ++ " for field " ++ field ++ " of " ++ owner
      ++ " is already defined by another schema; the field will use the existing definition"
  | .notRendered kind id =>
    "Rust generator does not render " ++ kind.label ++ " model '" ++ id ++ "'"

end Notice

end Typewright
