/-
  Typewright/Schema/Node.lean
  ===========================
  **Schema nodes** — one description of a type, as a tree of descriptions.

  A node says what a value may look like: its type names, properties, items,
  literals and so on.  A node with an identifier can be referred to from other
  nodes, so the models of a registry form a graph; a single node is a tree.

  A type name other than `null` is *concrete*: `null` only says that a value may
  be missing.  A node's `kind` decides what is rendered for it.
-/
import Typewright.Json.Basic

namespace Typewright

/-- The declared type of a node: one name or a list of names. -/
inductive TypeDecl where
  | single (name : String)
  | several (names : List String)
deriving DecidableEq

/-- The item schema of an array: one for each place, or one for all. -/
inductive Items (α : Type) where
  | tuple (nodes : List α)
  | single (node : α)

/-- What properties beyond the declared ones may hold. -/
inductive Additional (α : Type) where
  | allowed (any : Bool)
  | schema (node : α)

/-- One description of a type. -/
structure Node where
  /-- The name under which other nodes refer to this one. -/
  id : Option String := none
  /-- The identifier of the node that stands here. -/
  reference : Option String := none
  type : Option TypeDecl := none
  properties : Option (List (String × Node)) := none
  items : Option (Items Node) := none
  additional : Option (Additional Node) := none
  /-- Schemas of properties whose name matches a pattern. -/
  patterns : Option (List (String × Node)) := none
  /-- The only values allowed. -/
  literals : Option (List Json) := none
  required : List String := []
  description : Option String := none
  default : Option Json := none
  /-- Keys without a meaning here. -/
  extra : List (String × Json) := []

/-! ### Types -/

def TypeDecl.names : TypeDecl → List String
  | .single name => [name]
  | .several names => names

/-- The declared type names other than `null`. -/
def TypeDecl.concreteNames (t : TypeDecl) : List String := t.names.filter (· ≠ "null")

def TypeDecl.isUniform (t : TypeDecl) : Bool :=
  match t.names with
  | [] => true
  | first :: rest => rest.all (· == first)

namespace Node

def refer (id : String) : Node := { reference := some id }

def concreteNames (node : Node) : List String :=
  match node.type with
  | some t => t.concreteNames
  | none => []

/-- The concrete type name, if there is exactly one. -/
def concreteType (node : Node) : Option String :=
  match node.concreteNames with
  | [name] => some name
  | _ => none

/-! ### Kinds -/

end Node

inductive Kind where
  /-- A record with named properties. -/
  | object
  /-- A list or a tuple. -/
  | array
  /-- A closed set of values. -/
  | enumeration
  /-- Values of several types. -/
  | union
  /-- Anything else. -/
  | primitive
deriving DecidableEq

def Kind.label : Kind → String
  | .object => "Object"
  | .array => "Array"
  | .enumeration => "Enum"
  | .union => "Union"
  | .primitive => "Primitive"

namespace Node

/-- The literals, none if there is no list of them. -/
def members (node : Node) : List Json := node.literals.getD []

/-- The kind of a node.  A single concrete type `object` or `array` decides
    before literals do; properties count only where no type is declared. -/
def kind (node : Node) : Kind :=
  if node.concreteType = some "object" then .object
  else if node.concreteType = some "array" then .array
  else if !node.members.isEmpty then .enumeration
  else if 1 < node.concreteNames.length then .union
  else if node.type.isNone ∧ node.properties.isSome then .object
  else .primitive

/-! ### Parts -/

def requires (node : Node) (name : String) : Bool := node.required.contains name

def hasProperty (node : Node) (name : String) : Bool :=
  Keyed.contains name (node.properties.getD [])

def isTuple (node : Node) : Bool :=
  match node.items with
  | some (.tuple _) => true
  | _ => false

def isVec (node : Node) : Bool :=
  match node.items with
  | some (.single _) => true
  | _ => false

/-- Whether the node places no constraint on a value. -/
def isUnconstrained (node : Node) : Bool :=
  node.type.isNone && node.reference.isNone && node.properties.isNone && node.items.isNone
    && node.literals.isNone

/-! ### Size -/

mutual

/-- The size of a tree: its nodes, and the letters of their identifiers and
    property names. -/
def size : Node → Nat
  | ⟨id, _, _, properties, items, additional, patterns, _, _, _, _, _⟩ =>
    1 + (id.getD "").length + sizeEntries? properties + sizeItems? items
      + sizeAdditional? additional + sizeEntries? patterns

def sizeEntries? : Option (List (String × Node)) → Nat
  | none => 0
  | some entries => sizeEntries entries

def sizeEntries : List (String × Node) → Nat
  | [] => 0
  | (name, node) :: rest => name.length + node.size + sizeEntries rest

def sizeItems? : Option (Items Node) → Nat
  | none => 0
  | some (.single node) => node.size
  | some (.tuple nodes) => sizeNodes nodes

def sizeNodes : List Node → Nat
  | [] => 0
  | node :: rest => node.size + sizeNodes rest

def sizeAdditional? : Option (Additional Node) → Nat
  | none => 0
  | some (.allowed _) => 0
  | some (.schema node) => node.size

end

end Node

end Typewright
