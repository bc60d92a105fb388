/-
  Typewright/Schema/Registry.lean
  ===============================
  **Registries** — all models that may refer to each other, by identifier.

  A registry is built once and then only looked into.  It keeps the order in
  which its models were given.
-/
import Typewright.Json.Reader
import Typewright.Schema.Fields
import Typewright.Schema.Site

namespace Typewright

/-- Models by identifier, in order. -/
structure Registry where
  entries : List (String × Node) := []

inductive LoadError where
  /-- A text or value could not be read. -/
  | unreadable (fault : ReadFault)
  /-- The text holds something other than an object of models. -/
  | notAnObject
  /-- A model has no identifier. -/
  | missingId (location : String)
  /-- Two models have one identifier. -/
  | duplicate (id : String)

namespace Registry

/-! ### Looking up -/

def get? (registry : Registry) (id : String) : Option Node := Keyed.get? id registry.entries

def site? (registry : Registry) (id : String) : Option Site :=
  (registry.get? id).map (Site.root (.entry id))

def contains (registry : Registry) (id : String) : Bool := Keyed.contains id registry.entries

def resolve (registry : Registry) (node : Node) : Option Node := node.reference.bind registry.get?

def ids (registry : Registry) : List String := registry.entries.map (·.1)

def models (registry : Registry) : List Node := registry.entries.map (·.2)

def sites (registry : Registry) : List Site :=
  registry.entries.map fun (id, node) => Site.root (.entry id) node

def length (registry : Registry) : Nat := registry.entries.length

/-- The size of all models, the letters of their identifiers included. -/
def size (registry : Registry) : Nat := Node.sizeEntries registry.entries

/-! ### Building -/

/-- Adds models one by one, the first of them at place `index` of its list. -/
def addModels (registry : Registry) (index : Nat) : List Node → Except LoadError Registry
  | [] => .ok registry
  | model :: rest =>
    match model.id with
    | none => .error (.missingId ("models[" ++ toString index ++ "]"))
    | some id =>
      if registry.contains id then .error (.duplicate id)
      else addModels ⟨registry.entries ++ [(id, model)]⟩ (index + 1) rest

/-- The registry of models that each carry an identifier. -/
def ofModels (models : List Node) : Except LoadError Registry := addModels {} 0 models

/-- Reads the members of an object as models; a model without an identifier gets
    its key. -/
def readEntries : List (String × Json) → Except LoadError (List Node)
  | [] => .ok []
  | (key, value) :: rest =>
    match Node.ofJson value with
    | .error cause => .error (.unreadable (.mismatch cause))
    | .ok node => do
      let node := if node.id.isNone then { node with id := some key } else node
      return node :: (← readEntries rest)

def ofJson : Json → Except LoadError Registry
  | .object members => do ofModels (← readEntries members)
  | _ => .error .notAnObject

/-- The registry of a text: an object of models. -/
def read (text : String) : Except LoadError Registry :=
  match Json.read text with
  | .error fault => .error (.unreadable fault)
  | .ok value => ofJson value

end Registry

/-- The message of an error, but for texts that are not JSON. -/
def LoadError.message : LoadError → String
  | .unreadable (.mismatch cause) => "JSON parsing error: " ++ cause.message
  | .unreadable _ => "JSON parsing error: "
  | .notAnObject =>
    "invalid input model structure: input model must be a JSON object keyed by model identifier"
  | .missingId location => "model at '" ++ location ++ "' has no $id"
  | .duplicate id => "duplicate model definition: '" ++ id ++ "'"

end Typewright
