/-
  Typewright/Types/Mapping.lean
  =============================
  **From schemas to types** — the type of a field, with what has to be defined
  and reported for it.

  A reference to a model that has a definition becomes its name.  Models of
  single values and lists have none: a reference to one is replaced by its type.
  Objects and tuples that stand in a field are defined on the side.  What no
  type can express is left dynamic, with a warning.

  Types are made by steps, where a step asks for the type of another site at
  most once.  Every chain of steps that meets no site twice has at most one for
  every node at hand, so the size of these nodes bounds the steps.
-/
import Typewright.Types.Scope
import Typewright.Types.Traced
import Typewright.Types.TypeExpr

namespace Typewright

namespace Registry

/-- The site at the end of a chain of references, after `fuel` of them at most. -/
def follow (registry : Registry) : Nat → Site → Site
  | 0, site => site
  | fuel + 1, site =>
    match site.node.reference.bind registry.site? with
    | some next => registry.follow fuel next
    | none => site

/-- The model that a reference stands for: the first one that does not refer to
    another model.  A chain without an end is left somewhere inside it. -/
def target? (registry : Registry) (reference : String) : Option Site :=
  (registry.site? reference).map (registry.follow registry.length)

end Registry

def Node.isInlined (node : Node) : Bool :=
  node.reference.isNone && (node.kind = .primitive || node.kind = .array)

namespace Scope

/-- A rule for the type of a site that stands in a field. -/
abbrev Rule := Shape → Site → String → Traced TypeExpr

def unhandled (field : String) : Traced TypeExpr := .reporting (.unhandled field) .dynamic

def polymorphic (field : String) : Traced TypeExpr := .reporting (.polymorphic field) .dynamic

/-- A generated type in a field, by its name in the package. -/
def byName (name : String) : Traced TypeExpr := .mentioning name (.boxed (.model name))

/-- The dependency for a site that stands in a field of the scope. -/
def dependency (scope : Scope) (kind : DependencyKind) (field typeName : String) (site : Site) :
    Dependency :=
  ⟨kind, field, typeName, site, scope.model, scope.name⟩

/-! ### One step -/

def referenceType (scope : Scope) (rule : Rule) (site : Site) (field : String) :
    Traced TypeExpr :=
  let reference := site.node.reference.getD ""
  match scope.registry.target? reference with
  | none => do
    Traced.reporting (.dangling reference) ()
    byName (scope.typeName reference)
  | some target =>
    if target.node.isInlined then rule target.node.shape target field
    else byName (scope.typeNameIn target.node (target.node.id.getD reference))

def arrayType (scope : Scope) (rule : Rule) (site : Site) (field : String) : Traced TypeExpr :=
  match site.node.items with
  | some (.single item) => .list <$> rule item.shape (site.part .item item) field
  | some (.tuple _) =>
    let name := scope.tupleName field
    .defining (scope.dependency .tuple field name site) (.boxed (.sibling name))
  | none => unhandled field

def objectType (scope : Scope) (site : Site) (field : String) : Traced TypeExpr :=
  match site.node.id.filter scope.registry.contains with
  | some id => byName (scope.typeNameIn site.node id)
  | none =>
    let name := scope.recordName field
    if name = "" then unhandled field
    else .defining (scope.dependency .record field name site) (.boxed (.model name))

def mapOfType (rule : Rule) (site : Site) (field : String) : Traced TypeExpr :=
  .map <$>
    match site.node.shape with
    | .unknown => if site.node.isUnconstrained then pure .dynamic else unhandled field
    | .union => polymorphic field
    | shape => rule shape site field

/-- One step: the type of a site in a shape, given the rule for other sites. -/
def mapStep (scope : Scope) (rule : Rule) : Rule := fun shape site field =>
  match shape with
  | .scalar type => pure (.scalar type)
  | .reference => scope.referenceType rule site field
  | .array => scope.arrayType rule site field
  | .object => scope.objectType site field
  | .mapValue => mapOfType rule site field
  | .union => polymorphic field
  | .unknown => unhandled field

/-! ### All steps -/

/-- The type of a site after `fuel` steps at most. -/
def mapWithin (scope : Scope) : Nat → Rule
  | 0 => fun _ _ field => unhandled field
  | fuel + 1 => scope.mapStep (scope.mapWithin fuel)

/-- A bound on the steps for a site: the size of the nodes at hand, and one for a
    map to its values. -/
def mapBudget (scope : Scope) (site : Site) : Nat := scope.registry.size + site.node.size + 1

/-- The type of a site that stands in a field with the given shape. -/
def mapType (scope : Scope) : Rule := fun shape site field =>
  scope.mapWithin (scope.mapBudget site) shape site field

/-- The type of a field: optional unless it is required. -/
def fieldType (scope : Scope) (site : Site) (field : String) (required : Bool) :
    Traced TypeExpr := do
  let type ← scope.mapType site.node.shape site field
  return if required then type else .option type

end Scope

end Typewright
