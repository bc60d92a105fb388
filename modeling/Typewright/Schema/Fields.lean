/-
  Typewright/Schema/Fields.lean
  =============================
  **Nodes as JSON objects** — reading a node from a JSON value and writing it as
  one.

  Eleven keys have a meaning; a missing or `null` value leaves its field out, all
  other keys go to `extra` in their order.  Members are read in order and the
  first problem ends the reading.  A problem anywhere inside `type`, `items` or
  `additionalProperties` only says that no alternative of that union fits.
-/
import Typewright.Json.Fault
import Typewright.Schema.Node

namespace Typewright

namespace Node

/-! ### Keys -/

/-- The keys of a node that have a meaning. -/
inductive Key where
  | id
  | reference
  | type
  | properties
  | items
  | additional
  | patterns
  | literals
  | required
  | description
  | default
deriving DecidableEq

def Key.text : Key → String
  | .id => "$id"
  | .reference => "$ref"
  | .type => "type"
  | .properties => "properties"
  | .items => "items"
  | .additional => "additionalProperties"
  | .patterns => "patternProperties"
  | .literals => "enum"
  | .required => "required"
  | .description => "description"
  | .default => "default"

/-- All keys, in the order in which they are written. -/
def Key.all : List Key :=
  [.id, .reference, .type, .properties, .items, .additional, .patterns, .literals, .required,
    .description, .default]

def Key.ofText? (text : String) : Option Key := Key.all.find? (·.text == text)

/-! ### Reading -/

/-- A node while it is read, with the keys it was given so far. -/
structure Draft where
  node : Node := {}
  seen : List Key := []

/-- Marks a key as given; a second time is refused. -/
def Draft.claim (draft : Draft) (key : Key) : Except Mismatch Draft :=
  if draft.seen.contains key then .error (.duplicateField key.text)
  else .ok { draft with seen := key :: draft.seen }

def Draft.addExtra (draft : Draft) (key : String) (value : Json) : Draft :=
  { draft with node := { draft.node with extra := Keyed.put key value.mergeKeys draft.node.extra } }

def textOf? : Json → Except Mismatch (Option String)
  | .null => .ok none
  | .string s => .ok (some s)
  | other => .error (.wrongType other "a string")

def textsOf : List Json → Except Mismatch (List String)
  | [] => .ok []
  | .string s :: rest => do return s :: (← textsOf rest)
  | other :: _ => .error (.wrongType other "a string")

def typeOf : Json → Except Mismatch (Option TypeDecl)
  | .null => .ok none
  | .string s => .ok (some (.single s))
  | .array items =>
    match textsOf items with
    | .ok names => .ok (some (.several names))
    | .error _ => .error (.noVariant "SchemaType")
  | _ => .error (.noVariant "SchemaType")

def literalsOf : Json → Except Mismatch (Option (List Json))
  | .null => .ok none
  | .array items => .ok (some (Json.mergeItems items))
  | other => .error (.wrongType other "a sequence")

def requiredOf : Json → Except Mismatch (List String)
  | .array items => textsOf items
  | other => .error (.wrongType other "a sequence")

def defaultOf : Json → Option Json
  | .null => none
  | value => some value.mergeKeys

/-- A result, or the mismatch of a whole union. -/
def orNoVariant {α : Type} (union : String) : Except Mismatch α → Except Mismatch α
  | .ok a => .ok a
  | .error _ => .error (.noVariant union)

mutual

def ofJson : Json → Except Mismatch Node
  | .object members => do return (← readMembers {} members).node
  | other => .error (.wrongType other "struct ModelNode")

def readMembers : Draft → List (String × Json) → Except Mismatch Draft
  | draft, [] => .ok draft
  | draft, (name, value) :: rest => do
    match Key.ofText? name with
    | none => readMembers (draft.addExtra name value) rest
    | some key => readMembers (← fill (← draft.claim key) key value) rest

def fill (draft : Draft) (key : Key) (value : Json) : Except Mismatch Draft := do
  let node := draft.node
  let node ← match key with
    | .id => do pure { node with id := ← textOf? value }
    | .reference => do pure { node with reference := ← textOf? value }
    | .type => do pure { node with type := ← typeOf value }
    | .properties => do pure { node with properties := ← entriesOf value }
    | .items => do pure { node with items := ← orNoVariant "Items" (itemsOf value) }
    | .additional => do
      pure { node with additional := ← orNoVariant "AdditionalProperties" (additionalOf value) }
    | .patterns => do pure { node with patterns := ← entriesOf value }
    | .literals => do pure { node with literals := ← literalsOf value }
    | .required => do pure { node with required := ← requiredOf value }
    | .description => do pure { node with description := ← textOf? value }
    | .default => pure { node with default := defaultOf value }
  return { draft with node }

def entriesOf : Json → Except Mismatch (Option (List (String × Node)))
  | .null => .ok none
  | .object members => do return some (Keyed.ofList (← nodeMembers members))
  | other => .error (.wrongType other "a map")

def itemsOf : Json → Except Mismatch (Option (Items Node))
  | .null => .ok none
  | .array items => do return some (.tuple (← nodeItems items))
  | .object members => do return some (.single (← readMembers {} members).node)
  | other => .error (.wrongType other "struct ModelNode")

def additionalOf : Json → Except Mismatch (Option (Additional Node))
  | .null => .ok none
  | .bool any => .ok (some (.allowed any))
  | .object members => do return some (.schema (← readMembers {} members).node)
  | other => .error (.wrongType other "struct ModelNode")

def nodeMembers : List (String × Json) → Except Mismatch (List (String × Node))
  | [] => .ok []
  | (name, value) :: rest => do
    let node ← ofJson value
    return (name, node) :: (← nodeMembers rest)

def nodeItems : List Json → Except Mismatch (List Node)
  | [] => .ok []
  | value :: rest => do
    let node ← ofJson value
    return node :: (← nodeItems rest)

end

/-! ### Writing -/

def member (key : Key) : Option Json → List (String × Json)
  | some value => [(key.text, value)]
  | none => []

def typeJson : TypeDecl → Json
  | .single name => .string name
  | .several names => .array (names.map .string)

mutual

/-- Writes a node; fields that are left out and an empty `required` are not
    written. -/
def toJson : Node → Json
  | ⟨id, reference, type, properties, items, additional, patterns, literals, required, description,
      default, extra⟩ =>
    .object <|
      member .id (id.map .string)
        ++ member .reference (reference.map .string)
        ++ member .type (type.map typeJson)
        ++ member .properties (entriesJson? properties)
        ++ member .items (itemsJson? items)
        ++ member .additional (additionalJson? additional)
        ++ member .patterns (entriesJson? patterns)
        ++ member .literals (literals.map .array)
        ++ (if required.isEmpty then [] else [(Key.required.text, .array (required.map .string))])
        ++ member .description (description.map .string)
        ++ member .default default
        ++ extra

def entriesJson? : Option (List (String × Node)) → Option Json
  | none => none
  | some entries => some (.object (entriesJson entries))

def entriesJson : List (String × Node) → List (String × Json)
  | [] => []
  | (name, node) :: rest => (name, node.toJson) :: entriesJson rest

def itemsJson? : Option (Items Node) → Option Json
  | none => none
  | some (.single node) => some node.toJson
  | some (.tuple nodes) => some (.array (nodesJson nodes))

def nodesJson : List Node → List Json
  | [] => []
  | node :: rest => node.toJson :: nodesJson rest

def additionalJson? : Option (Additional Node) → Option Json
  | none => none
  | some (.allowed any) => some (.bool any)
  | some (.schema node) => some node.toJson

end

end Node

end Typewright
