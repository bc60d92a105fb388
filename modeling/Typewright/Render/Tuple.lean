/-
  Typewright/Render/Tuple.lean
  ============================
  **Tuple structs** — the definitions of arrays with a schema for every place.

  Every slot is required, and what a slot needs is named after the field and the
  number of the slot.  Tuples stand in fields only, so their scope is that of
  the type with the field.
-/
import Typewright.Render.Rendered
import Typewright.Types.Mapping

namespace Typewright

namespace Scope

/-- The scope of the type that a dependency stands in. -/
def ofParent (rules : NameRules) (registry : Registry) (dependency : Dependency) : Scope :=
  { rules, registry, model := dependency.parent, name := dependency.parentName }

def tupleTypes (scope : Scope) (dependency : Dependency) : Traced (List TypeExpr) :=
  Traced.all <| dependency.site.slots.mapIdx fun index slot =>
    scope.fieldType slot (dependency.field ++ "_" ++ toString index) true

def tupleText (scope : Scope) (dependency : Dependency) : Traced String := do
  let types ← scope.tupleTypes dependency
  let owner := dependency.parent.id.getD dependency.parentName
  let slots := ", ".intercalate (types.map fun type => "pub " ++ type.text)
  return heading
      (dependency.typeName ++ " represents field " ++ dependency.field ++ " from " ++ owner
        ++ " model.")
      none structDerive
    ++ "pub struct " ++ dependency.typeName ++ "(" ++ slots ++ ");"

end Scope

/-- The piece of a tuple struct that may be replaced: its whole text. -/
structure TupleHooks where
  text : Scope → Dependency → Traced String := Scope.tupleText

namespace TupleHooks

def render (hooks : TupleHooks) (scope : Scope) (dependency : Dependency) : Rendered :=
  .ofText scope dependency.typeName (hooks.text scope dependency)

end TupleHooks

end Typewright
