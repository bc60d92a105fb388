/-
  Typewright/Proofs/Schema/Document.lean
  ======================================
  **Registries of documents** — what the registry of a document holds, whether it
  is closed, and what it loses.

    * Where all identifiers of a document differ, its registry holds all its
      identified nodes, in pre-order, and the document can be put together again
      from the entries (`ofDocument_of_distinct`).
    * Whatever the identifiers, the registry is closed: its entries are cut nodes
      of the document, and the references in the cuts name entries
      (`ofDocument_closed`).
    * Where an identifier is repeated, the later node is dropped with all that is
      inside it.  So an identifier of the document need not be one of the registry:
      `ofDocument_contains_iff` says which ones are, and when none is lost.
-/
import Mathlib.Data.List.Basic
import Typewright.Proofs.Schema.Hoisting

namespace Typewright

open Relation (ReflTransGen TransGen)

namespace Node

variable {node part inner : Node} {id : String} {found : List (String × Node)}

/-! ### Identified nodes -/

/-- The nodes of a tree that have an identifier, under it, in pre-order. -/
def identified (node : Node) : List (String × Node) :=
  (node.id.map fun id => (id, node)).toList
    ++ node.parts.attach.flatMap fun ⟨part, _⟩ => part.identified
termination_by node.size
decreasing_by exact size_lt_of_mem_parts ‹_›

theorem identified_eq (node : Node) :
    node.identified =
      (node.id.map fun id => (id, node)).toList ++ node.parts.flatMap identified := by
  rw [identified]
  simp

theorem identified_of_none (hid : node.id = none) :
    node.identified = node.parts.flatMap identified := by
  rw [identified_eq, hid]
  rfl

theorem identified_of_some (hid : node.id = some id) :
    node.identified = (id, node) :: node.parts.flatMap identified := by
  rw [identified_eq, hid]
  rfl

theorem mem_identified_iff {entry : String × Node} :
    entry ∈ node.identified ↔ ReflTransGen HasPart node entry.2 ∧ entry.2.id = some entry.1 := by
  obtain ⟨id, inner⟩ := entry
  induction node using induction_on_parts with
  | step node ih =>
    simp only [identified_eq node, List.mem_append, Option.mem_toList, Option.map_eq_some_iff,
      List.mem_flatMap, Prod.mk.injEq]
    constructor
    · rintro (⟨_, hid, rfl, rfl⟩ | ⟨part, hpart, hinner⟩)
      · exact ⟨.refl, hid⟩
      · obtain ⟨hbelow, hid⟩ := (ih part hpart).mp hinner
        exact ⟨.head hpart hbelow, hid⟩
    · rintro ⟨hbelow, hid⟩
      rcases hbelow.cases_head with rfl | ⟨part, hpart, hrest⟩
      · exact Or.inl ⟨id, hid, rfl, rfl⟩
      · exact Or.inr ⟨part, hpart, (ih part hpart).mpr ⟨hrest, hid⟩⟩

/-! ### Distinct identifiers -/

theorem foldl_gather_eq_append_of {nodes : List Node}
    (hnodes : ∀ node ∈ nodes, ∀ {found : List (String × Node)},
      ((found ++ node.identified).map (·.1)).Nodup → node.gather found = found ++ node.identified)
    (hdistinct : ((found ++ nodes.flatMap identified).map (·.1)).Nodup) :
    nodes.foldl gather found = found ++ nodes.flatMap identified := by
  induction nodes generalizing found with
  | nil => simp
  | cons node rest ih =>
    rw [List.flatMap_cons, ← List.append_assoc] at hdistinct ⊢
    have hfirst : ((found ++ node.identified).map (·.1)).Nodup := by
      rw [List.map_append] at hdistinct
      exact (List.nodup_append.mp hdistinct).1
    rw [List.foldl_cons, hnodes node List.mem_cons_self hfirst]
    exact ih (fun other hother => hnodes other (List.mem_cons_of_mem _ hother)) hdistinct

/-- Where all identifiers differ, every identified node is gathered. -/
theorem gather_eq_append (hdistinct : ((found ++ node.identified).map (·.1)).Nodup) :
    node.gather found = found ++ node.identified := by
  induction node using induction_on_parts generalizing found with
  | step node ih =>
    cases hid : node.id with
    | none =>
      rw [identified_of_none hid] at hdistinct ⊢
      rw [gather_of_none hid, foldl_gather_eq_append_of ih hdistinct]
    | some id =>
      rw [identified_of_some hid, List.append_cons] at hdistinct ⊢
      have hnew : id ∉ found.map (·.1) := by
        simp only [List.map_append, List.map_cons, List.map_nil] at hdistinct
        have hfirst := (List.nodup_append.mp hdistinct).1
        intro hknown
        exact (List.nodup_append.mp hfirst).2.2 id hknown id List.mem_cons_self rfl
      rw [gather_of_new hid hnew, foldl_gather_eq_append_of ih hdistinct]

/-! ### Putting a document together again -/

/-- The positions of the nodes that have an identifier, in pre-order.  A position is
    a list of numbers of parts, from the root of the tree downwards. -/
def positions (node : Node) : List (List Nat) :=
  (if node.id.isSome then [[]] else [])
    ++ node.parts.attach.zipIdx.flatMap fun (⟨part, _⟩, index) => part.positions.map (index :: ·)
termination_by node.size
decreasing_by exact size_lt_of_mem_parts ‹_›

theorem positions_eq (node : Node) :
    node.positions =
      (if node.id.isSome then [[]] else [])
        ++ node.parts.zipIdx.flatMap fun (part, index) => part.positions.map (index :: ·) := by
  conv =>
    rhs
    rw [← List.attach_map_subtype_val node.parts, List.zipIdx_map, List.flatMap_map]
  rw [positions]
  rfl

/-- The node at a position. -/
def at? (node : Node) : List Nat → Option Node
  | [] => some node
  | index :: position => do
    let part ← node.parts[index]?
    part.at? position

/-- At the positions stand the identified nodes, in the same order. -/
theorem map_at?_positions (node : Node) :
    node.positions.map node.at? = node.identified.map fun entry => some entry.2 := by
  induction node using induction_on_parts with
  | step node ih =>
    rw [positions_eq, identified_eq, List.map_append, List.map_append]
    congr 1
    · cases node.id <;> rfl
    · rw [List.map_flatMap, List.map_flatMap]
      conv =>
        rhs
        rw [← List.zipIdx_map_fst 0 node.parts, List.flatMap_map]
      apply List.flatMap_congr
      rintro ⟨part, index⟩ hpart
      have hat : node.parts[index]? = some part := List.mem_zipIdx_iff_getElem?.mp hpart
      rw [List.map_map, ← ih part (List.mem_of_getElem? hat)]
      apply List.map_congr_left
      intro position _
      simp only [Function.comp_apply, at?, hat]
      rfl

end Node

namespace Registry

/-- The tree in which the reference at a position is replaced by the entry it names. -/
def substitute (registry : Registry) (tree : Node) : List Nat → Option Node
  | [] => registry.resolve tree
  | index :: position => do
    let part ← tree.parts[index]?
    let part ← registry.substitute part position
    return tree.withParts (tree.parts.set index part)

variable {registry : Registry} {node part : Node} {before after : List Node}

theorem substitute_withParts
    (hlength : (before ++ part :: after).length = node.parts.length) (position : List Nat) :
    registry.substitute (node.withParts (before ++ part :: after)) (before.length :: position) =
      (registry.substitute part position).map fun new =>
        node.withParts (before ++ new :: after) := by
  have hset : ∀ new, (node.withParts (before ++ part :: after)).withParts (before ++ new :: after) =
      node.withParts (before ++ new :: after) := by
    intro new
    apply Node.withParts_withParts hlength
    rw [← hlength]
    simp
  rw [substitute, Node.parts_withParts hlength]
  cases h : registry.substitute part position <;> simp [h, hset]

theorem foldlM_substitute_withParts (positions : List (List Nat))
    (hlength : (before ++ part :: after).length = node.parts.length) :
    (positions.map (before.length :: ·)).foldlM registry.substitute
        (node.withParts (before ++ part :: after)) =
      (positions.foldlM registry.substitute part).map fun new =>
        node.withParts (before ++ new :: after) := by
  induction positions generalizing part with
  | nil => rfl
  | cons position rest ih =>
    rw [List.map_cons, List.foldlM_cons, substitute_withParts hlength, List.foldlM_cons]
    cases registry.substitute part position with
    | none => rfl
    | some new =>
      apply ih
      rw [← hlength]
      simp

theorem foldlM_substitute_parts (before : List Node) {rest : List Node}
    (hrest : ∀ part ∈ rest, part.positions.foldlM registry.substitute part.remnant = some part)
    (hlength : (before ++ rest).length = node.parts.length) :
    ((rest.zipIdx before.length).flatMap fun (part, index) =>
        part.positions.map (index :: ·)).foldlM registry.substitute
          (node.withParts (before ++ rest.map Node.remnant)) =
      some (node.withParts (before ++ rest)) := by
  -- the parts before are whole again, the rest is still cut
  induction rest generalizing before with
  | nil => simp
  | cons part rest ih =>
    have hfirst : (before ++ part.remnant :: rest.map Node.remnant).length = node.parts.length := by
      rw [← hlength]
      simp
    have htail := ih (before ++ [part])
      (fun other hother => hrest other (List.mem_cons_of_mem _ hother)) (by simpa using hlength)
    rw [List.length_append, List.length_singleton, List.append_assoc, List.append_assoc] at htail
    rw [List.zipIdx_cons, List.flatMap_cons, List.foldlM_append, List.map_cons,
      foldlM_substitute_withParts _ hfirst, hrest part List.mem_cons_self]
    exact htail

/-- **What was cut out can be put back**, where every identified node has its entry. -/
theorem foldlM_substitute_remnant
    (hentries : ∀ entry ∈ node.identified, registry.get? entry.1 = some entry.2.cut) :
    node.positions.foldlM registry.substitute node.remnant = some node := by
  induction node using Node.induction_on_parts with
  | step node ih =>
    have hparts : ∀ part ∈ node.parts,
        part.positions.foldlM registry.substitute part.remnant = some part := by
      intro part hpart
      apply ih part hpart
      intro entry hentry
      apply hentries
      rw [Node.identified_eq]
      exact List.mem_append_right _ (List.mem_flatMap.mpr ⟨part, hpart, hentry⟩)
    have hcut := foldlM_substitute_parts [] hparts rfl
    rw [List.nil_append, List.nil_append, ← Node.cut_eq, Node.withParts_parts] at hcut
    rw [Node.positions_eq]
    unfold Node.remnant
    cases hid : node.id with
    | none => exact hcut
    | some id =>
      rw [Node.identified_of_some hid] at hentries
      have hentry : registry.substitute (.refer id) [] = some node.cut :=
        hentries (id, node) List.mem_cons_self
      simp only [Option.isSome_some, if_true, List.singleton_append, List.foldlM_cons, hentry]
      exact hcut

/-- **Nothing is lost where identifiers differ.**  The entries are all identified nodes
    in pre-order, cut.  Put back where they stood, starting with a reference to the
    root, they give the root. -/
theorem ofDocument_of_distinct {root : Node} {id : String} (hid : root.id = some id)
    (hdistinct : (root.identified.map (·.1)).Nodup) :
    ∃ result, ofDocument root = .ok result ∧
      result.registry.entries = root.identified.map (fun entry => (entry.1, entry.2.cut)) ∧
      root.positions.foldlM result.registry.substitute (.refer id) = some root := by
  have hgather : root.gather [] = root.identified := Node.gather_eq_append hdistinct
  refine ⟨.ofFound root.identified, ?_, rfl, ?_⟩
  · rw [ofDocument_eq hid, hgather]
  · have hremnant : root.remnant = .refer id := by
      unfold Node.remnant
      rw [hid]
    rw [← hremnant]
    apply foldlM_substitute_remnant
    intro entry hentry
    apply Keyed.get?_eq_some_of_mem
    · have hkeys : ((root.identified.map Node.cutEntry).map (·.1)) = root.identified.map (·.1) := by
        rw [List.map_map]
        rfl
      exact hkeys ▸ hdistinct
    · exact List.mem_map_of_mem (f := Node.cutEntry) hentry

def settings : Node where
  id := some "Settings"
  type := some (.single "object")
  properties := some [
    ("cities", {
      id := some "cities"
      type := some (.single "string")
      literals := some [.string "London", .string "Rome"] }),
    ("nested", {
      type := some (.single "object")
      properties := some [("inner", { id := some "Inner", properties := some [] })] }),
    ("name", { type := some (.single "string") })]

theorem ofDocument_of_distinct_settings :
    settings.id = some "Settings" ∧
      settings.identified.map (·.1) = ["Settings", "cities", "Inner"] ∧
      settings.positions = [[], [0], [1, 0]] ∧
      ∃ result, ofDocument settings = .ok result ∧
        result.registry.entries = settings.identified.map (fun entry => (entry.1, entry.2.cut)) ∧
        settings.positions.foldlM result.registry.substitute (.refer "Settings") = some settings :=
  ⟨rfl, by decide +kernel, by decide +kernel, ofDocument_of_distinct rfl (by decide +kernel)⟩

end Registry

namespace Node

variable {root node part inner : Node} {id key : String} {found all : List (String × Node)}

/-! ### References in cuts -/

/-- The identifiers of the references that are put into a node when it is cut. -/
def introduced (node : Node) : List String :=
  node.parts.attach.flatMap fun ⟨part, _⟩ =>
    match part.id with
    | some id => [id]
    | none => part.introduced
termination_by node.size
decreasing_by exact size_lt_of_mem_parts ‹_›

theorem mem_introduced_iff :
    key ∈ node.introduced ↔
      ∃ part ∈ node.parts, part.id = some key ∨ part.id = none ∧ key ∈ part.introduced := by
  rw [introduced]
  simp only [List.mem_flatMap, List.mem_attach, true_and, Subtype.exists]
  refine exists_congr fun part => ?_
  rw [exists_prop]
  refine and_congr_right fun _ => ?_
  cases part.id with
  | none => simp
  | some id => simp [eq_comm]

/-- A node inside a cut one is a reference put there, or was cut itself. -/
theorem below_cut (hbelow : TransGen HasPart node.cut inner) :
    (∃ key ∈ node.introduced, inner = .refer key) ∨
      ∃ original : Node, original.id = none ∧ inner = original.cut := by
  induction node using induction_on_parts with
  | step node ih =>
    obtain ⟨left, hleft, hrest⟩ := TransGen.head'_iff.mp hbelow
    unfold HasPart at hleft
    rw [cut_eq, parts_withParts (by simp)] at hleft
    obtain ⟨part, hpart, rfl⟩ := List.mem_map.mp hleft
    unfold remnant at hrest
    cases hid : part.id with
    | some id =>
      simp only [hid] at hrest
      rcases hrest.cases_head with rfl | ⟨_, hnone, -⟩
      · exact Or.inl ⟨id, mem_introduced_iff.mpr ⟨part, hpart, Or.inl hid⟩, rfl⟩
      · cases hnone
    | none =>
      simp only [hid] at hrest
      rcases Relation.reflTransGen_iff_eq_or_transGen.mp hrest with rfl | hfurther
      · exact Or.inr ⟨part, hid, rfl⟩
      · rcases ih part hpart hfurther with ⟨key, hkey, rfl⟩ | hcut
        · exact Or.inl ⟨key, mem_introduced_iff.mpr ⟨part, hpart, Or.inr ⟨hid, hkey⟩⟩, rfl⟩
        · exact Or.inr hcut

theorem id_eq_none_of_below_cut (hbelow : TransGen HasPart node.cut inner) : inner.id = none := by
  rcases below_cut hbelow with ⟨key, -, rfl⟩ | ⟨original, hid, rfl⟩
  · rfl
  · rw [id_cut, hid]

/-! ### Nodes that are met -/

theorem mem_keys_mono (hle : found <+: all) (hid : id ∈ found.map (·.1)) :
    id ∈ all.map (·.1) :=
  (hle.map _).subset hid

theorem mem_keys_gather (hid : node.id = some id) (found : List (String × Node)) :
    id ∈ (node.gather found).map (·.1) := by
  by_cases hknown : id ∈ found.map (·.1)
  · rw [gather_of_known hid hknown]
    exact hknown
  · rw [gather_of_new hid hknown]
    apply mem_keys_mono (prefix_foldl_gather _ _)
    simp

/-- After its parts were gathered, all references put into a node have their entries. -/
theorem introduced_subset (node : Node) (found : List (String × Node)) :
    node.introduced ⊆ (node.parts.foldl gather found).map (·.1) := by
  induction node using induction_on_parts generalizing found with
  | step node ih =>
    intro key hkey
    obtain ⟨part, hpart, hwhere⟩ := mem_introduced_iff.mp hkey
    obtain ⟨before, after, hsplit⟩ := List.append_of_mem hpart
    rw [hsplit, List.foldl_append, List.foldl_cons]
    apply mem_keys_mono (prefix_foldl_gather after _)
    rcases hwhere with hid | ⟨hid, hinside⟩
    · exact mem_keys_gather hid _
    · rw [gather_of_none hid]
      exact ih part hpart _ hinside

/-- The nodes of a document that hoisting comes to: it goes into the parts of a node
    unless another node was gathered under the same identifier. -/
inductive Met (gathered : List (String × Node)) (root : Node) : Node → Prop where
  | root : Met gathered root root
  | part {node part : Node} : Met gathered root node →
      (∀ id, node.id = some id → (id, node) ∈ gathered) → part ∈ node.parts →
      Met gathered root part

theorem Met.reached (h : Met found root node) : ReflTransGen HasPart root node := by
  induction h with
  | root => exact .refl
  | part _ _ hpart ih => exact ih.tail hpart

/-- What holds of the entries gathered from a root. -/
structure Gathered (all : List (String × Node)) (root : Node) (entry : String × Node) : Prop where
  met : Met all root entry.2
  keyed : entry.2.id = some entry.1
  closed : entry.2.introduced ⊆ all.map (·.1)

theorem gathered_of_mem_foldl {nodes : List Node}
    (hnodes : ∀ node ∈ nodes, ∀ {found}, node.gather found <+: all →
      ∀ entry ∈ node.gather found, entry ∈ found ∨ Gathered all root entry)
    (hall : nodes.foldl gather found <+: all) :
    ∀ entry ∈ nodes.foldl gather found, entry ∈ found ∨ Gathered all root entry := by
  induction nodes generalizing found with
  | nil => exact fun entry hentry => Or.inl hentry
  | cons node rest ih =>
    intro entry hentry
    rw [List.foldl_cons] at hentry hall
    have hrest := ih (fun other hother => hnodes other (List.mem_cons_of_mem _ hother)) hall
    rcases hrest entry hentry with hbefore | hnew
    · exact hnodes node List.mem_cons_self ((prefix_foldl_gather rest _).trans hall) entry hbefore
    · exact Or.inr hnew

/-- Every entry is that of a node that was met, and closed once all is gathered. -/
theorem gathered_of_mem (hmet : Met all root node) (hall : node.gather found <+: all) :
    ∀ entry ∈ node.gather found, entry ∈ found ∨ Gathered all root entry := by
  induction node using induction_on_parts generalizing found with
  | step node ih =>
    cases hid : node.id with
    | none =>
      rw [gather_of_none hid] at hall ⊢
      refine gathered_of_mem_foldl (fun part hpart _ => ih part hpart ?_) hall
      exact .part hmet (fun id h => by simp [hid] at h) hpart
    | some id =>
      by_cases hknown : id ∈ found.map (·.1)
      · rw [gather_of_known hid hknown]
        exact fun entry hentry => Or.inl hentry
      · rw [gather_of_new hid hknown] at hall ⊢
        have hopen : found ++ [(id, node)] <+: all := (prefix_foldl_gather _ _).trans hall
        have hmem : (id, node) ∈ all := hopen.subset (by simp)
        -- the parts of the node are gathered next, so its own entry will be closed
        have hself : Gathered all root (id, node) :=
          ⟨hmet, hid, fun key hkey => mem_keys_mono hall (introduced_subset node _ hkey)⟩
        intro entry hentry
        have hcases := gathered_of_mem_foldl (fun part hpart _ => ih part hpart ?_) hall entry hentry
        · rcases hcases with hbefore | hnew
          · rcases List.mem_append.mp hbefore with hold | hlast
            · exact Or.inl hold
            · exact Or.inr (List.mem_singleton.mp hlast ▸ hself)
          · exact Or.inr hnew
        · refine .part hmet ?_ hpart
          intro other hother
          rw [hid, Option.some.injEq] at hother
          exact hother ▸ hmem

theorem gathered_of_mem_gather {entry : String × Node} (hentry : entry ∈ root.gather []) :
    Gathered (root.gather []) root entry :=
  (gathered_of_mem .root (List.prefix_refl _) entry hentry).resolve_left List.not_mem_nil

theorem distinct_gather (root : Node) : ((root.gather []).map (·.1)).Nodup := by
  apply gather_keeps (P := fun found => (found.map (·.1)).Nodup)
  · intro found inner id _ _ hnew hdistinct
    exact Keyed.nodup_concat hdistinct hnew inner
  · exact List.nodup_nil

/-- The identifiers of the nodes that are met, or of those inside them if they have
    none, are gathered. -/
theorem Met.gathered (hroot : root.id = some id) (h : Met (root.gather []) root node) :
    (∀ key, node.id = some key → key ∈ (root.gather []).map (·.1)) ∧
      (node.id = none → node.introduced ⊆ (root.gather []).map (·.1)) := by
  induction h with
  | root =>
    refine ⟨fun key hkey => mem_keys_gather hkey [], fun hnone => ?_⟩
    rw [hroot] at hnone
    cases hnone
  | @part node part hmet hown hpart ih =>
    have hinside : node.introduced ⊆ (root.gather []).map (·.1) := by
      cases hid : node.id with
      | none => exact ih.2 hid
      | some key => exact (gathered_of_mem_gather (hown key hid)).closed
    constructor
    · intro key hkey
      exact hinside (mem_introduced_iff.mpr ⟨part, hpart, Or.inl hkey⟩)
    · intro hnone key hkey
      exact hinside (mem_introduced_iff.mpr ⟨part, hpart, Or.inr ⟨hnone, hkey⟩⟩)

/-- A node of a document is met, or stands inside one whose identifier was gathered
    with another node. -/
theorem met_or_dropped (found : List (String × Node)) (hbelow : ReflTransGen HasPart root node) :
    Met found root node ∨
      ∃ entry ∈ root.identified, entry ∉ found ∧ ReflTransGen HasPart entry.2 node := by
  induction hbelow with
  | refl => exact Or.inl .root
  | @tail node part hnode hpart ih =>
    rcases ih with hmet | ⟨entry, hentry, hdropped, hinside⟩
    · by_cases hown : ∀ id, node.id = some id → (id, node) ∈ found
      · exact Or.inl (.part hmet hown hpart)
      · simp only [Classical.not_forall] at hown
        obtain ⟨id, hid, hdropped⟩ := hown
        exact Or.inr ⟨(id, node), mem_identified_iff.mpr ⟨hnode, hid⟩, hdropped, .single hpart⟩
    · exact Or.inr ⟨entry, hentry, hdropped, hinside.tail hpart⟩

end Node

namespace Registry

variable {root : Node} {id : String}

theorem contains_ofFound {found : List (String × Node)} {key : String} :
    (Hoisting.ofFound found).registry.contains key ↔ key ∈ found.map (·.1) :=
  Keyed.contains_iff.trans Hoisting.knows_ofFound

theorem wellFormed_ofDocument {result : Hoisting} (h : ofDocument root = .ok result) :
    result.registry.WellFormed := by
  cases hid : root.id with
  | none =>
    unfold ofDocument at h
    rw [hid] at h
    cases h
  | some id =>
    rw [ofDocument_eq hid] at h
    cases h
    constructor
    · have hids : (Hoisting.ofFound (root.gather [])).registry.ids = (root.gather []).map (·.1) := by
        unfold Hoisting.ofFound ids
        rw [List.map_map]
        rfl
      rw [hids]
      exact Node.distinct_gather root
    · intro entry hentry
      obtain ⟨found, hfound, rfl⟩ := List.mem_map.mp hentry
      exact (Node.id_cut found.2).trans (Node.gathered_of_mem_gather hfound).keyed

/-- **Registries of documents are closed.**  Every entry is a node of the document, cut,
    and the references in the cuts name entries. -/
theorem ofDocument_closed (hid : root.id = some id) :
    ∃ result, ofDocument root = .ok result ∧
      (∃ rest, result.registry.entries = (id, root.cut) :: rest) ∧
      result.registry.WellFormed ∧
      ∀ entry ∈ result.registry.entries,
        (∀ inner, TransGen Node.HasPart entry.2 inner → inner.id = none) ∧
        ∃ node, ReflTransGen Node.HasPart root node ∧ node.id = some entry.1 ∧
          entry.2 = node.cut ∧ ∀ key ∈ node.introduced, result.registry.contains key := by
  have hresult := ofDocument_eq hid
  refine ⟨_, hresult, ?_, wellFormed_ofDocument hresult, ?_⟩
  · have hnew : id ∉ ([] : List (String × Node)).map (·.1) := List.not_mem_nil
    have hfirst : [(id, root)] <+: root.gather [] := by
      rw [Node.gather_of_new hid hnew]
      exact Node.prefix_foldl_gather _ _
    obtain ⟨rest, hrest⟩ := hfirst
    refine ⟨rest.map Node.cutEntry, ?_⟩
    rw [← hrest]
    rfl
  · intro entry hentry
    obtain ⟨⟨key, node⟩, hmem, rfl⟩ := List.mem_map.mp hentry
    have hgathered := Node.gathered_of_mem_gather hmem
    refine ⟨fun inner hinner => Node.id_eq_none_of_below_cut hinner, node, hgathered.met.reached,
      hgathered.keyed, rfl, ?_⟩
    intro key hkey
    exact contains_ofFound.mpr (hgathered.closed hkey)

def household : Node where
  id := some "Person"
  type := some (.single "object")
  properties := some [
    ("parent", { id := some "Person", type := some (.single "object") }),
    ("home", { id := some "Address", type := some (.single "string") }),
    ("work", {
      id := some "Address"
      type := some (.single "object")
      properties := some [("country", { id := some "Country", type := some (.single "string") })] })]

theorem ofDocument_closed_household :
    household.id = some "Person" ∧
      ∃ result, ofDocument household = .ok result ∧
        (∃ rest, result.registry.entries = ("Person", household.cut) :: rest) ∧
        result.registry.WellFormed ∧
        ∀ entry ∈ result.registry.entries,
          (∀ inner, TransGen Node.HasPart entry.2 inner → inner.id = none) ∧
          ∃ node, ReflTransGen Node.HasPart household node ∧ node.id = some entry.1 ∧
            entry.2 = node.cut ∧ ∀ key ∈ node.introduced, result.registry.contains key :=
  ⟨rfl, ofDocument_closed rfl⟩

/-- **What the registry of a document has** are the identifiers of the nodes that are
    met.  None is lost just if all those inside dropped nodes are there as well. -/
theorem ofDocument_contains_iff (hid : root.id = some id) :
    ∃ result, ofDocument root = .ok result ∧
      (∀ key, result.registry.contains key ↔
        ∃ node, Node.Met (root.gather []) root node ∧ node.id = some key) ∧
      ((∀ entry ∈ root.identified, result.registry.contains entry.1) ↔
        ∀ entry ∈ root.identified, entry ∉ root.gather [] →
          ∀ inner ∈ entry.2.identified, result.registry.contains inner.1) := by
  have hkeys : ∀ key, (Hoisting.ofFound (root.gather [])).registry.contains key ↔
      ∃ node, Node.Met (root.gather []) root node ∧ node.id = some key := by
    intro key
    rw [contains_ofFound]
    constructor
    · intro hkey
      obtain ⟨entry, hentry, rfl⟩ := List.mem_map.mp hkey
      have hgathered := Node.gathered_of_mem_gather hentry
      exact ⟨entry.2, hgathered.met, hgathered.keyed⟩
    · rintro ⟨node, hmet, hnode⟩
      exact (hmet.gathered hid).1 key hnode
  refine ⟨_, ofDocument_eq hid, hkeys, ?_⟩
  constructor
  · intro hall entry hentry _ inner hinner
    obtain ⟨hbelow, hinnerId⟩ := Node.mem_identified_iff.mp hinner
    have habove := (Node.mem_identified_iff.mp hentry).1
    exact hall inner (Node.mem_identified_iff.mpr ⟨habove.trans hbelow, hinnerId⟩)
  · intro hdropped entry hentry
    obtain ⟨hbelow, hentryId⟩ := Node.mem_identified_iff.mp hentry
    rcases Node.met_or_dropped (root.gather []) hbelow with hmet | hlost
    · exact (hkeys entry.1).mpr ⟨entry.2, hmet, hentryId⟩
    · obtain ⟨other, hother, hnot, hinside⟩ := hlost
      exact hdropped other hother hnot entry (Node.mem_identified_iff.mpr ⟨hinside, hentryId⟩)

theorem ofDocument_contains_iff_household :
    household.id = some "Person" ∧
      ∃ result, ofDocument household = .ok result ∧
        (∀ key, result.registry.contains key ↔
          ∃ node, Node.Met (household.gather []) household node ∧ node.id = some key) ∧
        ((∀ entry ∈ household.identified, result.registry.contains entry.1) ↔
          ∀ entry ∈ household.identified, entry ∉ household.gather [] →
            ∀ inner ∈ entry.2.identified, result.registry.contains inner.1) :=
  ⟨rfl, ofDocument_contains_iff rfl⟩

/-- The second address is dropped, and the country with it. -/
theorem household_loses_country :
    household.id = some "Person" ∧
      ∃ result, ofDocument household = .ok result ∧
        ∃ entry ∈ household.identified, ¬ result.registry.contains entry.1 := by
  refine ⟨rfl, _, rfl, ("Country", { id := some "Country", type := some (.single "string") }), ?_,
    by decide +kernel⟩
  simp [household, Node.identified_eq, Node.parts, Node.entryNodes, Node.itemNodes,
    Node.additionalNodes]

end Registry

end Typewright
