/-
  Typewright/Types/Scope.lean
  ===========================
  **Scopes** — the type whose fields are given names and types.

  A scope knows the rules for names, the registry, the model whose fields these
  are, and the name of the type that holds them.  Types that are defined on the
  side are named after a field and, where that name alone might be taken, after
  the type that holds it too.
-/
import Typewright.Naming.Convention

namespace Typewright

structure NameRules where
  convention : Convention := {}
  isReserved : String → Bool := isReservedWord

/-- The type whose fields are looked at. -/
structure Scope where
  rules : NameRules
  registry : Registry
  /-- The model that the fields belong to. -/
  model : Node
  /-- The name of the type. -/
  name : String

namespace NameRules

def context (rules : NameRules) (registry : Registry) (model : Node) (field : Option Node := none) :
    NameContext :=
  { model, registry, field, isReserved := rules.isReserved }

def modelName (rules : NameRules) (registry : Registry) (model : Node) : String :=
  rules.convention.typeName (rules.context registry model) (model.id.getD "")

end NameRules

namespace Scope

def ofModel (rules : NameRules) (registry : Registry) (model : Node) : Scope :=
  { rules, registry, model, name := rules.modelName registry model }

def context (scope : Scope) (field : Option Node := none) : NameContext :=
  scope.rules.context scope.registry scope.model field

/-! ### Names -/

def typeNameIn (scope : Scope) (model : Node) (name : String) : String :=
  scope.rules.convention.typeName (scope.rules.context scope.registry model) name

def typeName (scope : Scope) (name : String) : String := scope.typeNameIn scope.model name

def fieldName (scope : Scope) (name : String) (field : Option Node := none) : String :=
  scope.rules.convention.fieldName (scope.context field) name

def moduleName (scope : Scope) (name : String) : String :=
  scope.rules.convention.moduleName scope.context name

def enumMember (scope : Scope) (name : String) : String :=
  scope.rules.convention.enumMember scope.context name

def additionalType (scope : Scope) : String :=
  scope.rules.convention.additionalType scope.context

def fileName (scope : Scope) (name : String) : String :=
  "src/" ++ scope.moduleName name ++ ".rs"

/-! ### Names of types defined on the side -/

def tupleName (scope : Scope) (field : String) : String := scope.name ++ scope.typeName field

/-- Whether a name is the type name of a model in the registry. -/
def isModelName (scope : Scope) (name : String) : Bool :=
  scope.registry.models.any fun model => scope.rules.modelName scope.registry model == name

/-- The name of the struct for a field: that of the field alone, unless the
    scope is on the side itself, or the type of the scope or a model has it. -/
def recordName (scope : Scope) (field : String) : String :=
  let plain := scope.typeName field
  if plain = "" then ""
  else if scope.model.id.isNone ∨ plain = scope.name ∨ scope.isModelName plain then
    scope.name ++ plain
  else plain

/-! ### Required fields -/

/-- Whether a field is required: by its own name, or as the field name of a
    name that is listed. -/
def isRequired (scope : Scope) (field : String) : Bool :=
  scope.model.requires field || scope.model.required.any fun name => scope.fieldName name == field

end Scope

end Typewright
