/-
  Typewright/Types/Dependency.lean
  ================================
  **Dependencies** — the generated types that a definition needs.

  A schema that stands inside another one and has no definition of its own, such
  as the object of a field, gets one on the side: a *dependency*.  While a
  definition is made its dependencies are collected, one for each kind and
  field, together with the names of all generated types it mentions.
-/
import Typewright.Schema.Site

namespace Typewright

/-- The form in which an inner schema is defined. -/
inductive DependencyKind where
  /-- A tuple struct, for an array with a schema for every place. -/
  | tuple
  /-- A struct, for an object. -/
  | record
deriving DecidableEq

/-- An inner schema that needs a definition on the side. -/
structure Dependency where
  kind : DependencyKind
  /-- The name of the field as the schema has it. -/
  field : String
  /-- The name under which the type is defined. -/
  typeName : String
  /-- The inner schema. -/
  site : Site
  /-- The model that the field belongs to. -/
  parent : Node
  /-- The name of the type that the field belongs to. -/
  parentName : String

/-- The dependencies of one definition, in the order in which they were met. -/
structure Dependencies where
  inlined : List Dependency := []
  /-- The names of the generated types that are mentioned. -/
  names : List String := []

namespace Dependencies

def accepts (deps : Dependencies) (dependency : Dependency) : Bool :=
  !deps.inlined.any fun d => d.kind = dependency.kind ∧ d.field = dependency.field

def addInlined (deps : Dependencies) (dependency : Dependency) : Dependencies :=
  if deps.accepts dependency then { deps with inlined := deps.inlined ++ [dependency] } else deps

def addName (deps : Dependencies) (name : String) : Dependencies :=
  if name = "" ∨ name ∈ deps.names then deps else { deps with names := deps.names ++ [name] }

end Dependencies

end Typewright
