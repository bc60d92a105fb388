/-
  Typewright/Proofs/Schema/Hoisting.lean
  ======================================
  **What hoisting makes of a document** — its registry, in closed form.

  Hoisting does two things at once: it cuts a tree, and it fills a registry in which
  the entry of a node is open while its parts are hoisted.  They can be told apart.
  What is left of a node does not depend on the registry (`inside_eq`).  And an open
  entry is never looked into, so it may as well be filled at once (`add_put`).  Then
  the registry is a list of nodes, gathered from the document in one pass and cut
  (`ofDocument_eq`).

  A node is gathered if it is met and its identifier is new.  What stands inside a
  node whose identifier is not new is not met from there.
-/
import Typewright.Proofs.Schema.Parts
import Typewright.Schema.Hoist

namespace Typewright

open Relation (ReflTransGen)

namespace Node

/-! ### Cut nodes -/

/-- The node with references in the places of the outermost nodes in it that have an
    identifier. -/
def cut (node : Node) : Node :=
  node.withParts <| node.parts.attach.map fun ⟨part, _⟩ =>
    match part.id with
    | some id => .refer id
    | none => part.cut
termination_by node.size
decreasing_by exact size_lt_of_mem_parts ‹_›

/-- What is left in the place of a node. -/
def remnant (node : Node) : Node :=
  match node.id with
  | some id => .refer id
  | none => node.cut

theorem cut_eq (node : Node) : node.cut = node.withParts (node.parts.map remnant) := by
  rw [cut]
  congr 1
  exact List.attach_map_val (f := remnant)

theorem id_cut (node : Node) : node.cut.id = node.id := by
  rw [cut_eq, id_withParts]

/-- The entry of a node that has an identifier. -/
def cutEntry (entry : String × Node) : String × Node := (entry.1, entry.2.cut)

/-! ### Gathered nodes -/

/-- The nodes found so far and those gathered from a node: each identifier with the
    first node that is met under it. -/
def gather (found : List (String × Node)) (node : Node) : List (String × Node) :=
  let inside (found : List (String × Node)) :=
    node.parts.attach.foldl (fun found ⟨part, _⟩ => part.gather found) found
  match node.id with
  | none => inside found
  | some id => if id ∈ found.map (·.1) then found else inside (found ++ [(id, node)])
termination_by node.size
decreasing_by all_goals exact size_lt_of_mem_parts ‹_›

variable {node : Node} {id : String} {found : List (String × Node)}

theorem gather_of_none (hid : node.id = none) : node.gather found = node.parts.foldl gather found := by
  rw [gather]
  simp [hid]

theorem gather_of_known (hid : node.id = some id) (hknown : id ∈ found.map (·.1)) :
    node.gather found = found := by
  rw [gather]
  simp only [hid]
  rw [if_pos hknown]

theorem gather_of_new (hid : node.id = some id) (hnew : id ∉ found.map (·.1)) :
    node.gather found = node.parts.foldl gather (found ++ [(id, node)]) := by
  rw [gather]
  simp only [hid]
  rw [if_neg hnew]
  simp

/-- **What gathering keeps**: a property that each new node keeps on its own. -/
theorem gather_keeps {P : List (String × Node) → Prop}
    (hnew : ∀ {found inner id}, ReflTransGen HasPart node inner → inner.id = some id →
      id ∉ found.map (·.1) → P found → P (found ++ [(id, inner)]))
    (hfound : P found) : P (node.gather found) := by
  induction node using induction_on_parts generalizing found with
  | step node ih =>
    have hparts : ∀ {before}, P before → P (node.parts.foldl gather before) := by
      intro before hbefore
      refine List.foldlRecOn (motive := P) node.parts gather hbefore ?_
      exact fun _ h part hpart => ih part hpart (fun hbelow => hnew (.head hpart hbelow)) h
    cases hid : node.id with
    | none =>
      rw [gather_of_none hid]
      exact hparts hfound
    | some id =>
      by_cases hknown : id ∈ found.map (·.1)
      · rw [gather_of_known hid hknown]
        exact hfound
      · rw [gather_of_new hid hknown]
        exact hparts (hnew .refl hid hknown hfound)

/-- What was found stays, in its place. -/
theorem prefix_gather (node : Node) (found : List (String × Node)) : found <+: node.gather found :=
  gather_keeps (P := (found <+: ·)) (fun _ _ _ h => h.trans (List.prefix_append _ _))
    (List.prefix_refl found)

theorem prefix_foldl_gather (nodes : List Node) (found : List (String × Node)) :
    found <+: nodes.foldl gather found :=
  List.foldlRecOn (motive := fun after => found <+: after) nodes gather (List.prefix_refl found)
    fun after h node _ => h.trans (node.prefix_gather after)

end Node

namespace Hoisting

open Node (entryNodes itemNodes additionalNodes withEntryNodes withItemNodes withAdditionalNodes)

/-! ### What is left of a node -/

/-- The hoisting after a node was visited. -/
def add (state : Hoisting) (node : Node) : Hoisting := (state.visit node (inside node)).2

/-- What hoisting leaves of a node does not depend on what was hoisted before. -/
def Cuts (node : Node) : Prop := ∀ state, (inside node state).1 = node.cut

theorem visit_eq {node : Node} (hcuts : Cuts node) (state : Hoisting) :
    state.visit node (inside node) = (node.remnant, state.add node) := by
  have hfirst : (state.visit node (inside node)).1 = node.remnant := by
    unfold visit Node.remnant
    cases node.id with
    | none => exact hcuts state
    | some id =>
      simp only
      split <;> rfl
  rw [← hfirst]
  rfl

theorem insideNodes_eq {nodes : List Node} (hcuts : ∀ node ∈ nodes, Cuts node) (state : Hoisting) :
    insideNodes nodes state = (nodes.map Node.remnant, nodes.foldl add state) := by
  induction nodes generalizing state with
  | nil => rfl
  | cons node rest ih =>
    have hrest := ih fun other hother => hcuts other (List.mem_cons_of_mem _ hother)
    simp only [insideNodes, visit_eq (hcuts node List.mem_cons_self), hrest, List.map_cons,
      List.foldl_cons]

theorem insideEntries_eq {entries : List (String × Node)}
    (hcuts : ∀ node ∈ entries.map (·.2), Cuts node) (state : Hoisting) :
    insideEntries entries state =
      ((entries.map (·.1)).zip ((entries.map (·.2)).map Node.remnant),
        (entries.map (·.2)).foldl add state) := by
  induction entries generalizing state with
  | nil => rfl
  | cons entry rest ih =>
    obtain ⟨name, node⟩ := entry
    have hrest := ih fun other hother => hcuts other (List.mem_cons_of_mem _ hother)
    have hnode := hcuts node List.mem_cons_self
    simp only [insideEntries, visit_eq hnode, hrest, List.map_cons, List.foldl_cons,
      List.zip_cons_cons]

theorem insideEntries?_eq {entries : Option (List (String × Node))}
    (hcuts : ∀ node ∈ entryNodes entries, Cuts node) (state : Hoisting) :
    insideEntries? entries state =
      (withEntryNodes entries ((entryNodes entries).map Node.remnant),
        (entryNodes entries).foldl add state) := by
  cases entries with
  | none => rfl
  | some entries =>
    have hinner : ∀ node ∈ entries.map (·.2), Cuts node := hcuts
    rw [insideEntries?, insideEntries_eq hinner]
    rfl

theorem insideItems?_eq {items : Option (Items Node)} (hcuts : ∀ node ∈ itemNodes items, Cuts node)
    (state : Hoisting) :
    insideItems? items state =
      (withItemNodes items ((itemNodes items).map Node.remnant),
        (itemNodes items).foldl add state) := by
  match items with
  | none => rfl
  | some (.single node) =>
    simp only [insideItems?, visit_eq (hcuts node List.mem_cons_self)]
    rfl
  | some (.tuple nodes) =>
    have hinner : ∀ node ∈ nodes, Cuts node := hcuts
    rw [insideItems?, insideNodes_eq hinner]
    cases nodes <;> rfl

theorem insideAdditional?_eq {additional : Option (Additional Node)}
    (hcuts : ∀ node ∈ additionalNodes additional, Cuts node) (state : Hoisting) :
    insideAdditional? additional state =
      (withAdditionalNodes additional ((additionalNodes additional).map Node.remnant),
        (additionalNodes additional).foldl add state) := by
  match additional with
  | none => rfl
  | some (.allowed _) => rfl
  | some (.schema node) =>
    simp only [insideAdditional?, visit_eq (hcuts node List.mem_cons_self)]
    rfl

theorem inside_eq_of_cuts {node : Node} (hcuts : ∀ part ∈ node.parts, Cuts part)
    (state : Hoisting) : inside node state = (node.cut, node.parts.foldl add state) := by
  rw [Node.cut_eq]
  simp only [Node.parts, List.forall_mem_append] at hcuts
  obtain ⟨⟨⟨hproperties, hitems⟩, hadditional⟩, hpatterns⟩ := hcuts
  unfold Node.parts
  simp only [List.map_append, List.foldl_append]
  rw [Node.withParts_append (by simp) (by simp) (by simp)]
  cases node
  simp only [inside, insideEntries?_eq hproperties, insideItems?_eq hitems,
    insideAdditional?_eq hadditional, insideEntries?_eq hpatterns]

theorem cuts (node : Node) : Cuts node := by
  induction node using Node.induction_on_parts with
  | step node ih =>
    intro state
    rw [inside_eq_of_cuts ih]

/-- **Hoisting takes parts one by one.**  What is left of a node is the cut node, and
    its parts are added in order. -/
theorem inside_eq (node : Node) (state : Hoisting) :
    inside node state = (node.cut, node.parts.foldl add state) :=
  inside_eq_of_cuts (fun part _ => cuts part) state

/-! ### Entries that are filled at once -/

section

variable {state : Hoisting} {node : Node} {id : String}

def Knows (state : Hoisting) (id : String) : Prop := id ∈ state.registry.ids

theorem knows_put {other : String} {value : Node} :
    (state.put other value).Knows id ↔ id = other ∨ state.Knows id := by
  unfold Knows Registry.ids put
  rw [Keyed.keys_put]
  split
  · next hknown =>
    constructor
    · exact Or.inr
    · rintro (rfl | h)
      · exact hknown
      · exact h
  · rw [List.mem_append, List.mem_singleton, or_comm]

theorem put_put (id : String) (value last : Node) :
    (state.put id value).put id last = state.put id last := by
  unfold put
  rw [Keyed.put_put]

theorem put_comm {other : String} (hne : other ≠ id) (hknown : state.Knows id)
    (value new : Node) : (state.put id value).put other new = (state.put other new).put id value := by
  unfold put
  rw [Keyed.put_comm hne hknown]

theorem add_of_none (hid : node.id = none) : state.add node = node.parts.foldl add state := by
  rw [add, visit, hid]
  simp only [inside_eq]

theorem add_of_known (hid : node.id = some id) (hknown : state.Knows id) :
    state.add node = state := by
  have hcontains : state.registry.contains id := Keyed.contains_iff.mpr hknown
  rw [add, visit, hid]
  simp only [hcontains, if_true]

theorem enter_inside (node : Node) (id : String) (state : Hoisting) :
    state.enter id (inside node) = (node.parts.foldl add (state.put id {})).put id node.cut := by
  simp only [enter, inside_eq]

theorem add_of_new (hid : node.id = some id) (hnew : ¬ state.Knows id) :
    state.add node = (state.report (.hoisted id)).enter id (inside node) := by
  have hcontains : ¬ state.registry.contains id := fun h => hnew (Keyed.contains_iff.mp h)
  rw [add, visit, hid]
  simp only [hcontains, Bool.false_eq_true, if_false]

/-- What is known stays known. -/
theorem Knows.add (hknown : state.Knows id) (node : Node) : (state.add node).Knows id := by
  induction node using Node.induction_on_parts generalizing state with
  | step node ih =>
    have hparts : ∀ {before : Hoisting}, before.Knows id →
        (node.parts.foldl Hoisting.add before).Knows id := by
      intro before hbefore
      refine List.foldlRecOn (motive := fun s => s.Knows id) node.parts Hoisting.add hbefore ?_
      exact fun _ h part hpart => ih part hpart h
    cases hid : node.id with
    | none =>
      rw [add_of_none hid]
      exact hparts hknown
    | some other =>
      by_cases hother : state.Knows other
      · rw [add_of_known hid hother]
        exact hknown
      · rw [add_of_new hid hother, enter_inside, knows_put]
        exact Or.inr (hparts (knows_put.mpr (Or.inr hknown)))

theorem Knows.foldl_add (hknown : state.Knows id) (nodes : List Node) :
    (nodes.foldl Hoisting.add state).Knows id :=
  List.foldlRecOn (motive := fun s => s.Knows id) nodes Hoisting.add hknown
    fun _ h node _ => h.add node

/-- What a list of nodes adds, if an entry can be filled before any one of them. -/
theorem foldl_add_put_of {nodes : List Node} {value : Node}
    (hnodes : ∀ node ∈ nodes, ∀ {state : Hoisting}, state.Knows id →
      (state.put id value).add node = (state.add node).put id value)
    (hknown : state.Knows id) :
    nodes.foldl add (state.put id value) = (nodes.foldl add state).put id value := by
  refine (List.foldl_rel (r := fun (s t : Hoisting) => t.Knows id ∧ s = t.put id value)
    ⟨hknown, rfl⟩ ?_).2
  rintro node hnode _ t ⟨ht, rfl⟩
  exact ⟨ht.add node, hnodes node hnode ht⟩

/-- **Entries can be filled at once.**  Hoisting looks for the entry of an identifier,
    not into it. -/
theorem add_put (hknown : state.Knows id) (value : Node) (node : Node) :
    (state.put id value).add node = (state.add node).put id value := by
  induction node using Node.induction_on_parts generalizing state with
  | step node ih =>
    cases hid : node.id with
    | none => rw [add_of_none hid, add_of_none hid, foldl_add_put_of ih hknown]
    | some other =>
      by_cases hother : state.Knows other
      · rw [add_of_known hid hother, add_of_known hid (knows_put.mpr (Or.inr hother))]
      · have hne : other ≠ id := by
          rintro rfl
          exact hother hknown
        have hnew : ¬ (state.put id value).Knows other := fun h =>
          (knows_put.mp h).elim hne hother
        -- the node opens an entry of its own, at another place than that of `id`
        let opened := (state.report (.hoisted other)).put other {}
        have hopened : opened.Knows id := knows_put.mpr (Or.inr hknown)
        have hswap : ((state.put id value).report (.hoisted other)).put other {} =
            opened.put id value := put_comm hne (show (state.report _).Knows id from hknown) _ _
        calc (state.put id value).add node
            = (node.parts.foldl add (opened.put id value)).put other node.cut := by
                rw [add_of_new hid hnew, enter_inside, hswap]
          _ = ((node.parts.foldl add opened).put id value).put other node.cut := by
                rw [foldl_add_put_of ih hopened]
          _ = ((node.parts.foldl add opened).put other node.cut).put id value :=
                put_comm hne (hopened.foldl_add node.parts) value node.cut
          _ = (state.add node).put id value := by rw [add_of_new hid hother, enter_inside]

theorem enter_eq (node : Node) (id : String) (state : Hoisting) :
    state.enter id (inside node) = node.parts.foldl add (state.put id node.cut) := by
  have hknown : (state.put id {}).Knows id := knows_put.mpr (Or.inl rfl)
  rw [enter_inside, ← foldl_add_put_of (fun _ _ _ h => add_put h _ _) hknown, put_put]

end

/-! ### The closed form -/

/-- The hoisting that has found nodes, the first of them the root, and filled their
    entries. -/
def ofFound (found : List (String × Node)) : Hoisting where
  registry := ⟨found.map Node.cutEntry⟩
  notices := found.tail.map fun entry => .hoisted entry.1

section

variable {found : List (String × Node)} {id : String}

theorem knows_ofFound : (ofFound found).Knows id ↔ id ∈ found.map (·.1) := by
  unfold Knows Registry.ids ofFound
  rw [List.map_map]
  rfl

theorem ofFound_append (hfound : found ≠ []) (hnew : id ∉ found.map (·.1)) (node : Node) :
    ofFound (found ++ [(id, node)]) =
      ((ofFound found).report (.hoisted id)).put id node.cut := by
  have hcut : id ∉ (found.map Node.cutEntry).map (·.1) := fun h => hnew (knows_ofFound.mp h)
  unfold ofFound put report
  rw [Keyed.put_of_not_mem hcut, List.map_append, List.tail_append_of_ne_nil hfound,
    List.map_append]
  rfl

theorem foldl_add_ofFound_of {nodes : List Node}
    (hnodes : ∀ node ∈ nodes, ∀ {found : List (String × Node)}, found ≠ [] →
      (ofFound found).add node = ofFound (node.gather found))
    (hfound : found ≠ []) :
    nodes.foldl add (ofFound found) = ofFound (nodes.foldl Node.gather found) := by
  refine (List.foldl_rel (r := fun (state : Hoisting) (found : List (String × Node)) =>
    found ≠ [] ∧ state = ofFound found) ⟨hfound, rfl⟩ ?_).2
  rintro node hnode _ found ⟨hne, rfl⟩
  refine ⟨?_, hnodes node hnode hne⟩
  intro hnil
  exact hne (List.prefix_nil.mp (hnil ▸ node.prefix_gather found))

/-- Adding a node to what was found gathers from it. -/
theorem add_ofFound (hfound : found ≠ []) (node : Node) :
    (ofFound found).add node = ofFound (node.gather found) := by
  induction node using Node.induction_on_parts generalizing found with
  | step node ih =>
    cases hid : node.id with
    | none => rw [add_of_none hid, Node.gather_of_none hid, foldl_add_ofFound_of ih hfound]
    | some id =>
      by_cases hknown : id ∈ found.map (·.1)
      · rw [add_of_known hid (knows_ofFound.mpr hknown), Node.gather_of_known hid hknown]
      · have hnew : ¬ (ofFound found).Knows id := fun h => hknown (knows_ofFound.mp h)
        rw [add_of_new hid hnew, enter_eq, ← ofFound_append hfound hknown,
          foldl_add_ofFound_of ih (by simp), Node.gather_of_new hid hknown]

end

end Hoisting

/-- **The registry of a document** has the nodes gathered from it as entries, cut. -/
theorem Registry.ofDocument_eq {root : Node} {id : String} (hid : root.id = some id) :
    ofDocument root = .ok (.ofFound (root.gather [])) := by
  have hroot : ({} : Hoisting).put id root.cut = .ofFound [(id, root)] := rfl
  have hnew : id ∉ ([] : List (String × Node)).map (·.1) := List.not_mem_nil
  unfold ofDocument
  simp only [hid, Hoisting.enter_eq, hroot, Node.gather_of_new hid hnew, List.nil_append]
  rw [Hoisting.foldl_add_ofFound_of (fun node _ _ h => Hoisting.add_ofFound h node) (by simp)]

end Typewright
