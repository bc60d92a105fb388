/-
  Typewright/Schema/Site.lean
  ===========================
  **Sites** — a node together with the place where it stands.

  Two nodes may look alike and still be different descriptions.  A place tells
  them apart: the tree it is in, and the steps from the root of that tree.  Two
  sites are *the same node* if their places are equal.
-/
import Typewright.Schema.Node

namespace Typewright

/-- A step from a node to one of its parts. -/
inductive Step where
  | property (name : String)
  | item
  | slot (index : Nat)
  | additional
  | pattern (name : String)
deriving DecidableEq

/-- A tree of nodes: a registry entry, or one of the nodes that a caller holds. -/
inductive Tree where
  | entry (id : String)
  | loose (number : Nat)
deriving DecidableEq

/-- A place in a tree: the steps to it, the last one first. -/
structure Place where
  tree : Tree
  path : List Step
deriving DecidableEq

/-- A node and the place where it stands. -/
structure Site where
  place : Place
  node : Node

namespace Site

def root (tree : Tree) (node : Node) : Site := ⟨⟨tree, []⟩, node⟩

def part (site : Site) (step : Step) (node : Node) : Site :=
  ⟨⟨site.place.tree, step :: site.place.path⟩, node⟩

def properties (site : Site) : List (String × Site) :=
  (site.node.properties.getD []).map fun (name, node) => (name, site.part (.property name) node)

def patterns (site : Site) : List (String × Site) :=
  (site.node.patterns.getD []).map fun (name, node) => (name, site.part (.pattern name) node)

/-- The schema of additional properties, if there may be any; an unconstrained
    one where any value is allowed. -/
def additional? (site : Site) : Option Site :=
  match site.node.additional with
  | some (.schema node) => some (site.part .additional node)
  | some (.allowed true) => some (site.part .additional {})
  | some (.allowed false) | none => none

/-- The schemas of the items of a tuple, in order. -/
def slots (site : Site) : List Site :=
  match site.node.items with
  | some (.tuple nodes) => nodes.mapIdx fun index node => site.part (.slot index) node
  | _ => []

end Site

end Typewright
