/-
  Typewright/Proofs/Schema/Parts.lean
  ===================================
  **Nodes as trees** — a node with the list of the nodes directly inside it.

  A node holds other nodes under four keys, each in a form of its own.  Here they
  are one list, its *parts*, in the order of the keys, and a node can be given
  other parts.  What is proved over parts need not look at the keys again: an
  induction on a node has one case, and a function over all depths one equation.

  The parts are the nodes of the sites that a site holds, so both say the same of
  what stands inside a node.
-/
import Typewright.Proofs.Schema.Decided

namespace Typewright

namespace Node

/-! ### Parts -/

def entryNodes (entries : Option (List (String × Node))) : List Node := (entries.getD []).map (·.2)

def itemNodes : Option (Items Node) → List Node
  | some (.single node) => [node]
  | some (.tuple nodes) => nodes
  | none => []

def additionalNodes : Option (Additional Node) → List Node
  | some (.schema node) => [node]
  | some (.allowed _) | none => []

/-- The nodes directly inside a node: those of its properties, items, additional
    properties and patterns. -/
def parts (node : Node) : List Node :=
  entryNodes node.properties ++ itemNodes node.items ++ additionalNodes node.additional
    ++ entryNodes node.patterns

/-- One node stands directly inside another one. -/
def HasPart (node part : Node) : Prop := part ∈ node.parts

end Node

namespace Site

theorem parts_node (site : Site) : site.parts.map (·.node) = site.node.parts := by
  have hitem : (site.item?.toList ++ site.slots).map (·.node) = Node.itemNodes site.node.items := by
    unfold item? slots
    cases site.node.items with
    | none => rfl
    | some items =>
      cases items with
      | single node => rfl
      | tuple nodes =>
        simp only [Option.toList_none, List.nil_append, Node.itemNodes,
          List.mapIdx_eq_zipIdx_map, List.map_map, Function.comp_def, part]
        exact List.zipIdx_map_fst 0 nodes
  have hadditional : site.additionalSchema?.toList.map (·.node) =
      Node.additionalNodes site.node.additional := by
    unfold additionalSchema?
    cases site.node.additional with
    | none => rfl
    | some additional => cases additional <;> rfl
  unfold parts Node.parts
  rw [← hitem, ← hadditional]
  simp only [List.map_append, List.map_map, List.append_assoc, properties, patterns,
    Node.entryNodes, part, Function.comp_def]

theorem exists_holds_of_mem_parts {site : Site} {part : Node} (hpart : part ∈ site.node.parts) :
    ∃ inner, site.Holds inner ∧ inner.node = part := by
  rw [← site.parts_node] at hpart
  obtain ⟨inner, hinner, rfl⟩ := List.mem_map.mp hpart
  exact ⟨inner, mem_parts_iff.mp hinner, rfl⟩

end Site

namespace Node

theorem size_lt_of_mem_parts {node part : Node} (hpart : part ∈ node.parts) :
    part.size < node.size := by
  have hroot : part ∈ (Site.root (.loose 0) node).node.parts := hpart
  obtain ⟨inner, hholds, rfl⟩ := Site.exists_holds_of_mem_parts hroot
  exact hholds.below.1

/-- What holds of a node if it holds of all its parts holds of every node. -/
theorem induction_on_parts {P : Node → Prop}
    (step : ∀ node, (∀ part ∈ node.parts, P part) → P node) (node : Node) : P node :=
  step node fun part _ => induction_on_parts step part
termination_by node.size
decreasing_by exact size_lt_of_mem_parts ‹_›

/-! ### Other parts -/

def withEntryNodes (entries : Option (List (String × Node))) (nodes : List Node) :
    Option (List (String × Node)) :=
  entries.map fun entries => (entries.map (·.1)).zip nodes

def withItemNodes : Option (Items Node) → List Node → Option (Items Node)
  | some (.single _), node :: _ => some (.single node)
  | some (.tuple _), nodes => some (.tuple nodes)
  | items, _ => items

def withAdditionalNodes : Option (Additional Node) → List Node → Option (Additional Node)
  | some (.schema _), node :: _ => some (.schema node)
  | additional, _ => additional

/-- The node with other parts, as many as it has, and the rest as it is. -/
def withParts (node : Node) (parts : List Node) : Node :=
  let (properties, parts) := parts.splitAt (entryNodes node.properties).length
  let (items, parts) := parts.splitAt (itemNodes node.items).length
  let (additional, patterns) := parts.splitAt (additionalNodes node.additional).length
  { node with
    properties := withEntryNodes node.properties properties
    items := withItemNodes node.items items
    additional := withAdditionalNodes node.additional additional
    patterns := withEntryNodes node.patterns patterns }

@[simp] theorem id_withParts (node : Node) (parts : List Node) : (node.withParts parts).id = node.id :=
  rfl

theorem withParts_append {node : Node} {properties items additional : List Node}
    (hproperties : properties.length = (entryNodes node.properties).length)
    (hitems : items.length = (itemNodes node.items).length)
    (hadditional : additional.length = (additionalNodes node.additional).length)
    (patterns : List Node) :
    node.withParts (properties ++ items ++ additional ++ patterns) =
      { node with
        properties := withEntryNodes node.properties properties
        items := withItemNodes node.items items
        additional := withAdditionalNodes node.additional additional
        patterns := withEntryNodes node.patterns patterns } := by
  unfold withParts
  simp only [List.append_assoc, List.splitAt_eq, ← hproperties, ← hitems, ← hadditional,
    List.take_left, List.drop_left]

/-- As many nodes as a node has parts, by the keys under which the parts stand. -/
theorem exists_append_of_length {node : Node} {parts : List Node}
    (hlength : parts.length = node.parts.length) :
    ∃ properties items additional patterns,
      parts = properties ++ items ++ additional ++ patterns ∧
      properties.length = (entryNodes node.properties).length ∧
      items.length = (itemNodes node.items).length ∧
      additional.length = (additionalNodes node.additional).length ∧
      patterns.length = (entryNodes node.patterns).length := by
  unfold Node.parts at hlength
  simp only [List.length_append] at hlength
  generalize (entryNodes node.properties).length = a at hlength ⊢
  generalize (itemNodes node.items).length = b at hlength ⊢
  generalize (additionalNodes node.additional).length = c at hlength ⊢
  refine ⟨parts.take a, (parts.drop a).take b, ((parts.drop a).drop b).take c,
    ((parts.drop a).drop b).drop c, ?_, ?_, ?_, ?_, ?_⟩
  · simp only [List.append_assoc, List.take_append_drop]
  all_goals
    simp only [List.length_take, List.length_drop]
    omega

theorem entryNodes_with {entries : Option (List (String × Node))} {nodes : List Node}
    (hlength : nodes.length = (entryNodes entries).length) :
    entryNodes (withEntryNodes entries nodes) = nodes := by
  cases entries with
  | none => exact (List.eq_nil_of_length_eq_zero hlength).symm
  | some entries =>
    simp only [entryNodes, Option.getD_some, List.length_map] at hlength
    simp only [entryNodes, withEntryNodes, Option.map_some, Option.getD_some]
    exact List.map_snd_zip (by simp [hlength])

theorem itemNodes_with {items : Option (Items Node)} {nodes : List Node}
    (hlength : nodes.length = (itemNodes items).length) :
    itemNodes (withItemNodes items nodes) = nodes := by
  match items with
  | none => exact (List.eq_nil_of_length_eq_zero hlength).symm
  | some (.single _) =>
    obtain ⟨node, rfl⟩ := List.length_eq_one_iff.mp hlength
    rfl
  | some (.tuple _) => cases nodes <;> rfl

theorem additionalNodes_with {additional : Option (Additional Node)} {nodes : List Node}
    (hlength : nodes.length = (additionalNodes additional).length) :
    additionalNodes (withAdditionalNodes additional nodes) = nodes := by
  match additional with
  | none => exact (List.eq_nil_of_length_eq_zero hlength).symm
  | some (.allowed _) => exact (List.eq_nil_of_length_eq_zero hlength).symm
  | some (.schema _) =>
    obtain ⟨node, rfl⟩ := List.length_eq_one_iff.mp hlength
    rfl

theorem parts_withParts {node : Node} {parts : List Node}
    (hlength : parts.length = node.parts.length) : (node.withParts parts).parts = parts := by
  obtain ⟨properties, items, additional, patterns, rfl, hproperties, hitems, hadditional,
    hpatterns⟩ := exists_append_of_length hlength
  rw [withParts_append hproperties hitems hadditional]
  simp only [Node.parts, entryNodes_with hproperties, itemNodes_with hitems,
    additionalNodes_with hadditional, entryNodes_with hpatterns]

theorem withEntryNodes_entryNodes (entries : Option (List (String × Node))) :
    withEntryNodes entries (entryNodes entries) = entries := by
  cases entries with
  | none => rfl
  | some entries => exact congrArg some (List.zip_of_prod rfl rfl).symm

theorem withItemNodes_itemNodes (items : Option (Items Node)) :
    withItemNodes items (itemNodes items) = items := by
  cases items with
  | none => rfl
  | some items =>
    cases items with
    | single _ => rfl
    | tuple nodes => cases nodes <;> rfl

theorem withAdditionalNodes_additionalNodes (additional : Option (Additional Node)) :
    withAdditionalNodes additional (additionalNodes additional) = additional := by
  cases additional with
  | none => rfl
  | some additional => cases additional <;> rfl

/-- A node with its own parts is the node itself. -/
theorem withParts_parts (node : Node) : node.withParts node.parts = node := by
  unfold Node.parts
  rw [withParts_append rfl rfl rfl, withEntryNodes_entryNodes, withItemNodes_itemNodes,
    withAdditionalNodes_additionalNodes, withEntryNodes_entryNodes]
  cases node
  rfl

theorem withEntryNodes_with {entries : Option (List (String × Node))} {nodes : List Node}
    (hlength : nodes.length = (entryNodes entries).length) (others : List Node) :
    withEntryNodes (withEntryNodes entries nodes) others = withEntryNodes entries others := by
  cases entries with
  | none => rfl
  | some entries =>
    simp only [entryNodes, Option.getD_some, List.length_map] at hlength
    simp only [withEntryNodes, Option.map_some]
    rw [List.map_fst_zip (by simp [hlength])]

theorem withItemNodes_with {items : Option (Items Node)} {nodes others : List Node}
    (hnodes : nodes.length = (itemNodes items).length)
    (hothers : others.length = (itemNodes items).length) :
    withItemNodes (withItemNodes items nodes) others = withItemNodes items others := by
  match items with
  | none => rfl
  | some (.single _) =>
    obtain ⟨node, rfl⟩ := List.length_eq_one_iff.mp hnodes
    obtain ⟨other, rfl⟩ := List.length_eq_one_iff.mp hothers
    rfl
  | some (.tuple _) => cases nodes <;> rfl

theorem withAdditionalNodes_with {additional : Option (Additional Node)} {nodes others : List Node}
    (hnodes : nodes.length = (additionalNodes additional).length)
    (hothers : others.length = (additionalNodes additional).length) :
    withAdditionalNodes (withAdditionalNodes additional nodes) others =
      withAdditionalNodes additional others := by
  match additional with
  | none => rfl
  | some (.allowed _) => rfl
  | some (.schema _) =>
    obtain ⟨node, rfl⟩ := List.length_eq_one_iff.mp hnodes
    obtain ⟨other, rfl⟩ := List.length_eq_one_iff.mp hothers
    rfl

/-- Of parts given twice, the last ones stay. -/
theorem withParts_withParts {node : Node} {parts others : List Node}
    (hparts : parts.length = node.parts.length) (hothers : others.length = node.parts.length) :
    (node.withParts parts).withParts others = node.withParts others := by
  obtain ⟨properties, items, additional, patterns, rfl, hproperties, hitems, hadditional,
    hpatterns⟩ := exists_append_of_length hparts
  obtain ⟨properties', items', additional', patterns', rfl, hproperties', hitems', hadditional',
    -⟩ := exists_append_of_length hothers
  rw [withParts_append hproperties hitems hadditional,
    withParts_append hproperties' hitems' hadditional', withParts_append]
  · simp only [withEntryNodes_with hproperties, withItemNodes_with hitems hitems',
      withAdditionalNodes_with hadditional hadditional', withEntryNodes_with hpatterns]
  · rw [hproperties', entryNodes_with hproperties, hproperties]
  · rw [hitems', itemNodes_with hitems, hitems]
  · rw [hadditional', additionalNodes_with hadditional, hadditional]

end Node

end Typewright
