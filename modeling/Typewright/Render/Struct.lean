/-
  Typewright/Render/Struct.lean
  =============================
  **Structs** — the definitions of objects.

  An object has a field for every declared property, then one map for all other
  properties, if there may be any, and one map for every pattern.  Fields that
  are not required are optional, and left out of a value where they are missing.

  `StructHooks` is a record of the pieces that may be replaced.
-/
import Typewright.Render.Rendered
import Typewright.Types.Mapping

namespace Typewright

/-! ### Slots and fields -/

inductive SlotSource where
  /-- A declared property. -/
  | property
  /-- The properties that are not declared. -/
  | additional
  /-- The properties whose names match a pattern. -/
  | pattern
deriving DecidableEq

/-- A field of a struct before it has a name and a type. -/
structure Slot where
  /-- The name in the schema. -/
  name : String
  site : Site
  source : SlotSource
  required : Bool := false

structure Field where
  /-- The name in the schema. -/
  schemaName : String
  name : String
  type : TypeExpr
  /-- The attribute lines above the field. -/
  tag : String
  required : Bool

namespace Scope

/-- The slots of an object, which is the model of the scope. -/
def slots (scope : Scope) (site : Site) : List Slot :=
  let declared := site.properties.map fun (name, part) =>
    ({ name, site := part, source := .property, required := scope.isRequired name } : Slot)
  let additional := site.additional?.toList.map fun part =>
    ({ name := site.node.uniqueProperty "additionalProperties"
       site := part
       source := .additional } : Slot)
  let patterns := site.patterns.map fun (pattern, part) =>
    ({ name := site.node.uniqueProperty (pattern ++ "PatternProperties")
       site := part
       source := .pattern } : Slot)
  declared ++ additional ++ patterns

def slotName (scope : Scope) (slot : Slot) : String := scope.fieldName slot.name

def slotTypeName (scope : Scope) (slot : Slot) : String :=
  match slot.source with
  | .additional => if scope.additionalType = "" then slot.name else scope.additionalType
  | .property | .pattern => slot.name

/-- The type of a slot: that of the property, or an optional map. -/
def slotType (scope : Scope) (slot : Slot) : Traced TypeExpr :=
  match slot.source with
  | .property => scope.fieldType slot.site slot.name slot.required
  | .additional | .pattern =>
    .option <$> scope.mapType .mapValue slot.site (scope.slotTypeName slot)

end Scope

def Slot.tag (slot : Slot) : String :=
  "#[serde(rename = " ++ Text.Literal.quote slot.name
    ++ (if slot.required then "" else ", skip_serializing_if = \"Option::is_none\"") ++ ")]"

structure StructHooks where
  fieldName : Scope → Slot → String := Scope.slotName
  fieldType : Scope → Slot → Traced TypeExpr := Scope.slotType
  tag : Scope → Slot → String := fun _ slot => slot.tag
  /-- More lines at the end of the body. -/
  extra : Scope → String := fun _ => ""

/-! ### Text -/

namespace Field

def declaration (field : Field) : String :=
  (if field.tag = "" then "" else field.tag ++ "\n")
    ++ "pub " ++ field.name ++ ": " ++ field.type.text ++ ","

/-- The parameter of the constructor for a required field: without its box. -/
def parameter (field : Field) : String :=
  let type := field.type.text
  field.name ++ ": " ++ (TypeExpr.unboxed? type).getD type

def initializer (field : Field) : String :=
  if !field.required then field.name ++ ": None,"
  else if (TypeExpr.unboxed? field.type.text).isSome then
    field.name ++ ": Box::new(" ++ field.name ++ "),"
  else field.name ++ ","

end Field

def constructorText (name : String) (fields : List Field) : String :=
  let parameters := ", ".intercalate ((fields.filter (·.required)).map Field.parameter)
  let settings := fields.map fun field => "            " ++ field.initializer ++ "\n"
  "impl " ++ name ++ " \x7b\n    pub fn new(" ++ parameters ++ ") -> " ++ name ++ " \x7b\n        "
    ++ name ++ " \x7b\n" ++ String.join settings ++ "        \x7d\n    \x7d\n\x7d"

namespace StructHooks

def field (hooks : StructHooks) (scope : Scope) (slot : Slot) : Traced Field := do
  let type ← hooks.fieldType scope slot
  return {
    schemaName := slot.name
    name := hooks.fieldName scope slot
    type
    tag := hooks.tag scope slot
    required := slot.required }

/-- The fields of an object, which is the model of the scope. -/
def fields (hooks : StructHooks) (scope : Scope) (site : Site) : Traced (List Field) :=
  Traced.all ((scope.slots site).map (hooks.field scope))

def text (hooks : StructHooks) (scope : Scope) (constructors : Bool) (fields : List Field) :
    String :=
  let extra := hooks.extra scope
  let items := fields.map Field.declaration ++ (if extra = "" then [] else [extra])
  heading (scope.name ++ " represents a " ++ scope.name ++ " model.") scope.model.description
      structDerive
    ++ braced ("pub struct " ++ scope.name) (items.map (Text.indent 1))
    ++ (if constructors then appended (constructorText scope.name fields) else "")

/-- The struct of an object, which is the model of the scope. -/
def render (hooks : StructHooks) (scope : Scope) (site : Site) (constructors : Bool) : Rendered :=
  .ofText scope scope.name (hooks.text scope constructors <$> hooks.fields scope site)

end StructHooks

end Typewright
