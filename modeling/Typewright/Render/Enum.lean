/-
  Typewright/Render/Enum.lean
  ===========================
  **Enumerations** — the definitions of closed sets of values and of values of
  several types.

  Literals that are all texts, all numbers or all booleans become variants
  without a payload, tagged by the literal.  Any other members become variants
  that carry a payload of their type and are tagged by their position.

  `EnumHooks` is a record of the pieces that may be replaced.
-/
import Typewright.Json.Printer
import Typewright.Render.Rendered
import Typewright.Schema.Shape
import Typewright.Types.TypeExpr

namespace Typewright

open Number (Layout)

/-! ### Members -/

inductive Member where
  | literal (value : Json)
  /-- Any value of a type. -/
  | type (name : String)

structure VariantSlot where
  index : Nat
  member : Member
  /-- Whether all members are literals of one scalar type. -/
  uniform : Bool

structure Variant where
  /-- The attribute lines above the variant. -/
  attributes : List String
  name : String
  payload : Option String := none
  /-- The expression for the payload of a default value. -/
  value : Option String := none
  /-- Whether the variant is the declared default. -/
  isDefault : Bool := false

namespace Node

/-- The members of a node: its literals, or else its concrete types. -/
def enumMembers (node : Node) : List Member :=
  if node.members.isEmpty then node.concreteNames.map .type else node.members.map .literal

end Node

/-- The scalar types that the literals of a uniform enumeration may have. -/
inductive LiteralKind where
  | text
  | number
  | flag
deriving DecidableEq

def Json.literalKind : Json → Option LiteralKind
  | .string _ => some .text
  | .number _ => some .number
  | .bool _ => some .flag
  | .null | .array _ | .object _ => none

/-- Whether there are literals, all of one scalar type. -/
def Node.isUniformEnum (node : Node) : Bool :=
  match node.members with
  | [] => false
  | first :: rest =>
    first.literalKind.isSome && rest.all (·.literalKind = first.literalKind)

/-- A literal as a text: a string as it is, any other value as JSON. -/
def Json.literalText : Json → String
  | .string s => s
  | value => value.text

/-! ### Variants -/

namespace Variant

def declaration (variant : Variant) : String :=
  match variant.payload with
  | some payload => variant.name ++ "(" ++ payload ++ ")"
  | none => variant.name

def constructor (variant : Variant) : String :=
  match variant.payload, variant.value with
  | some _, some value => "Self::" ++ variant.name ++ "(" ++ value ++ ")"
  | some _, none => "Self::" ++ variant.name ++ "(Default::default())"
  | none, _ => "Self::" ++ variant.name

def tag (name : String) : String := "#[serde(rename = " ++ Text.Literal.quote name ++ ")]"

/-- Numbers in default values: positional from `1e-4` up to, not including,
    `1e16`, with no sign before a positive exponent. -/
def numberLayout : Layout := ⟨-4, 16, false, true⟩

/-- The expression for a number: that of the nearest one with a fraction. -/
def numberValue : JsonNumber → Option String
  | .whole n => (Number.Binary64.ofNat (n < 0) n.natAbs).map (·.text numberLayout)
  | .real x => some (x.text numberLayout)

def anyMap : String := (TypeExpr.map .dynamic).text

def anyList : String := (TypeExpr.list .dynamic).text

def ofType (index : Nat) (typeName : String) : Variant :=
  let (name, payload) := match Shape.ofTypeName typeName with
    | .scalar type => (Text.pascalCase type.text, type.text)
    | .object => ("HashMap", anyMap)
    | .array => ("Array", anyList)
    | _ => (Text.pascalCase typeName, TypeExpr.dynamic.text)
  { attributes := [tag (toString index)], name, payload := some payload }

end Variant

namespace Scope

/-- A name for a variant: the candidate if it can be used, else the name of the
    literal as a member. -/
def variantName (scope : Scope) (candidate literal : String) : String :=
  if startsIdentifier candidate && !scope.rules.isReserved candidate then candidate
  else scope.enumMember literal

def isDefault (scope : Scope) (value : Json) : Bool :=
  match scope.model.default with
  | some default => default.same value
  | none => false

/-- The variant for a literal, tagged by the literal. -/
def unitVariant (scope : Scope) (value : Json) : Variant :=
  let literal := value.literalText
  { attributes := [Variant.tag literal]
    name :=
      if scope.model.concreteType = some "string" then
        scope.variantName (Text.pascalCase literal) literal
      else scope.enumMember literal
    isDefault := scope.isDefault value }

/-- The variant for a literal, tagged by its place, with a payload of its type. -/
def payloadVariant (scope : Scope) (index : Nat) (value : Json) : Variant :=
  let (name, payload, expression) : String × Option String × Option String :=
    match value with
    | .string s =>
      (scope.variantName (Text.pascalCase s) s, some Scalar.string.text,
        some ("String::from(" ++ Text.Literal.quote s ++ ")"))
    | .number n => ("F64", some Scalar.double.text, Variant.numberValue n)
    | .bool b => ("Bool", some Scalar.boolean.text, some (Json.bool b).text)
    | .object _ => ("HashMap", some Variant.anyMap, some "std::collections::HashMap::new()")
    | .array _ => ("Array", some Variant.anyList, some "Vec::new()")
    | .null => ("Null", none, none)
  { attributes := [Variant.tag (toString index)]
    name
    payload
    value := expression
    isDefault := scope.isDefault value }

def memberVariant (scope : Scope) (slot : VariantSlot) : Variant :=
  match slot.member with
  | .literal value =>
    if slot.uniform then scope.unitVariant value else scope.payloadVariant slot.index value
  | .type name => Variant.ofType slot.index name

end Scope

/-- The variants from the one at `index` on, where a name among those in `seen`
    gets its index appended. -/
def Variant.renamed (index : Nat) (seen : List String) : List Variant → List Variant
  | [] => []
  | variant :: rest =>
    let name := if variant.name ∈ seen then variant.name ++ toString index else variant.name
    { variant with name } :: renamed (index + 1) (name :: seen) rest

/-! ### Text -/

def unitDerive : String :=
  "#[derive(Clone, Copy, Debug, Eq, PartialEq, Ord, PartialOrd, Hash, Serialize, Deserialize)]"

def payloadDerive : String := "#[derive(Clone, Debug, PartialEq, Serialize, Deserialize)]"

/-- The type of a node in the documentation of its enumeration. -/
def Node.typeDescription (node : Node) : String :=
  match node.type with
  | some (.single name) => (Shape.ofTypeName name).scalarText.getD name
  | some (.several names) => "[" ++ ",".intercalate names ++ "]"
  | none => TypeExpr.dynamic.text

structure EnumHooks where
  variant : Scope → VariantSlot → Variant := Scope.memberVariant
  /-- More text after the definition. -/
  extra : Scope → String := fun _ => ""

namespace EnumHooks

def variants (hooks : EnumHooks) (scope : Scope) (uniform : Bool) : List Variant :=
  scope.model.enumMembers.mapIdx fun index member => hooks.variant scope ⟨index, member, uniform⟩

def variantLines (variant : Variant) : List String :=
  variant.attributes.map (Text.indent 1) ++ ["    " ++ variant.declaration ++ ","]

/-- The default value of an enumeration: the declared one, or else the first. -/
def defaultText (name : String) (variants : List Variant) : String :=
  match variants.find? (·.isDefault) <|> variants.head? with
  | none => ""
  | some variant =>
    "impl Default for " ++ name ++ " \x7b\n    fn default() -> Self \x7b\n        "
      ++ variant.constructor ++ "\n    \x7d\n\x7d"

def text (hooks : EnumHooks) (scope : Scope) (defaults : Bool) (variants : List Variant) :
    String :=
  let derive := if variants.all (·.payload.isNone) then unitDerive else payloadDerive
  heading (scope.name ++ " enum of type: " ++ scope.model.typeDescription)
      scope.model.description derive
    ++ braced ("pub enum " ++ scope.name) (variants.flatMap variantLines)
    ++ appended (hooks.extra scope)
    ++ (if defaults then appended (defaultText scope.name variants) else "")

def render (hooks : EnumHooks) (scope : Scope) (defaults : Bool) : Rendered :=
  let variants := Variant.renamed 0 [] (hooks.variants scope scope.model.isUniformEnum)
  .ofText scope scope.name (pure (hooks.text scope defaults variants))

end EnumHooks

end Typewright
