/-
  Typewright/Schema/Hoist.lean
  ============================
  **Hoisting** — the registry of a document, a single tree in which inner nodes
  may carry identifiers of their own.

  The root and every inner node with an identifier become entries, a node before
  the nodes inside it.  Where an inner one stood, a reference to it is left.  An
  identifier met again is left as a reference only: its first node is the entry,
  and a node inside itself refers to itself.
-/
import Typewright.Schema.Notice
import Typewright.Schema.Reader
import Typewright.Schema.Registry

namespace Typewright

/-- The entries found so far, and what was reported. -/
structure Hoisting where
  registry : Registry := {}
  notices : List Notice := []

namespace Hoisting

def put (state : Hoisting) (id : String) (node : Node) : Hoisting :=
  { state with registry := ⟨Keyed.put id node state.registry.entries⟩ }

def report (state : Hoisting) (notice : Notice) : Hoisting :=
  { state with notices := state.notices ++ [notice] }

/-- Makes an entry of a node: its place is taken before the nodes `inside` it
    are hoisted. -/
def enter (state : Hoisting) (id : String) (inside : Hoisting → Node × Hoisting) : Hoisting :=
  let (node, state) := inside (state.put id {})
  state.put id node

/-- Hoists an inner node, given how to hoist what is `inside` it. -/
def visit (state : Hoisting) (node : Node) (inside : Hoisting → Node × Hoisting) :
    Node × Hoisting :=
  match node.id with
  | none => inside state
  | some id =>
    if state.registry.contains id then (.refer id, state)
    else (.refer id, (state.report (.hoisted id)).enter id inside)

mutual

def inside : Node → Hoisting → Node × Hoisting
  | ⟨id, reference, type, properties, items, additional, patterns, literals, required, description,
      default, extra⟩, state =>
    let (properties, state) := insideEntries? properties state
    let (items, state) := insideItems? items state
    let (additional, state) := insideAdditional? additional state
    let (patterns, state) := insideEntries? patterns state
    (⟨id, reference, type, properties, items, additional, patterns, literals, required,
      description, default, extra⟩, state)

def insideEntries? : Option (List (String × Node)) → Hoisting →
    Option (List (String × Node)) × Hoisting
  | none, state => (none, state)
  | some entries, state =>
    let (entries, state) := insideEntries entries state
    (some entries, state)

def insideEntries : List (String × Node) → Hoisting → List (String × Node) × Hoisting
  | [], state => ([], state)
  | (name, node) :: rest, state =>
    let (node, state) := state.visit node (inside node)
    let (rest, state) := insideEntries rest state
    ((name, node) :: rest, state)

def insideItems? : Option (Items Node) → Hoisting → Option (Items Node) × Hoisting
  | none, state => (none, state)
  | some (.single node), state =>
    let (node, state) := state.visit node (inside node)
    (some (.single node), state)
  | some (.tuple nodes), state =>
    let (nodes, state) := insideNodes nodes state
    (some (.tuple nodes), state)

def insideNodes : List Node → Hoisting → List Node × Hoisting
  | [], state => ([], state)
  | node :: rest, state =>
    let (node, state) := state.visit node (inside node)
    let (rest, state) := insideNodes rest state
    (node :: rest, state)

def insideAdditional? : Option (Additional Node) → Hoisting → Option (Additional Node) × Hoisting
  | none, state => (none, state)
  | some (.allowed any), state => (some (.allowed any), state)
  | some (.schema node), state =>
    let (node, state) := state.visit node (inside node)
    (some (.schema node), state)

end

end Hoisting

namespace Registry

/-- The registry of a document, with what was reported on the way. -/
def ofDocument (root : Node) : Except LoadError Hoisting :=
  match root.id with
  | none => .error (.missingId "#")
  | some id => .ok (({} : Hoisting).enter id (Hoisting.inside root))

def readDocument (text : String) : Except LoadError Hoisting :=
  match Node.read text with
  | .error fault => .error (.unreadable fault)
  | .ok root => ofDocument root

end Registry

end Typewright
