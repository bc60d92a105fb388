/-
  Typewright/Proofs/Schema/Descent.lean
  =====================================
  **Descent through schemas** — the steps by which rendering gets from a node to
  the next one, and why a chain of such steps comes to an end.

  A step goes to a part of a node, or from a reference to the list that it stands
  for.  Parts are smaller than the whole, so a chain can only be long by jumping
  to lists; and where no list reaches itself, it jumps to every list at most
  once.  The measure is the size of the node at hand plus that of the lists not
  jumped to so far.

  The same hypothesis keeps a chain from coming back to a place: every site on it
  stands below the model where it began or below the list jumped to last.
-/
import Mathlib.Logic.Relation
import Typewright.Proofs.Keyed
import Typewright.Types.Mapping

namespace Typewright

open Relation (ReflTransGen TransGen)

/-! ### Sizes -/

namespace Node

/-- The size of a node is that of its parts, and more. -/
theorem size_eq (node : Node) :
    node.size = 1 + (node.id.getD "").length + sizeEntries? node.properties
      + sizeItems? node.items + sizeAdditional? node.additional + sizeEntries? node.patterns := by
  cases node
  rw [size]

theorem size_pos (node : Node) : 0 < node.size := by
  have heq := node.size_eq
  omega

theorem size_le_sizeEntries {name : String} {node : Node} {entries : List (String × Node)}
    (hmem : (name, node) ∈ entries) : node.size ≤ sizeEntries entries := by
  induction entries with
  | nil => cases hmem
  | cons entry rest ih =>
    simp only [sizeEntries]
    rcases List.mem_cons.mp hmem with rfl | hrest
    · exact Nat.le_trans (Nat.le_add_left _ _) (Nat.le_add_right _ _)
    · exact Nat.le_trans (ih hrest) (Nat.le_add_left _ _)

theorem size_le_sizeNodes {node : Node} {nodes : List Node} (hmem : node ∈ nodes) :
    node.size ≤ sizeNodes nodes := by
  induction nodes with
  | nil => cases hmem
  | cons head rest ih =>
    simp only [sizeNodes]
    rcases List.mem_cons.mp hmem with rfl | hrest
    · exact Nat.le_add_right _ _
    · exact Nat.le_trans (ih hrest) (Nat.le_add_left _ _)

theorem size_le_sizeEntries? {name : String} {node : Node}
    {entries : Option (List (String × Node))} (hmem : (name, node) ∈ entries.getD []) :
    node.size ≤ sizeEntries? entries := by
  cases entries with
  | none => cases hmem
  | some entries => exact size_le_sizeEntries hmem

theorem size_lt_of_property {node part : Node} {name : String}
    (hmem : (name, part) ∈ node.properties.getD []) : part.size < node.size := by
  have hle := size_le_sizeEntries? hmem
  have heq := node.size_eq
  omega

theorem size_lt_of_pattern {node part : Node} {name : String}
    (hmem : (name, part) ∈ node.patterns.getD []) : part.size < node.size := by
  have hle := size_le_sizeEntries? hmem
  have heq := node.size_eq
  omega

theorem size_lt_of_item {node part : Node} (hitems : node.items = some (.single part)) :
    part.size < node.size := by
  have heq := node.size_eq
  simp only [hitems, sizeItems?] at heq
  omega

theorem size_lt_of_slot {node part : Node} {nodes : List Node}
    (hitems : node.items = some (.tuple nodes)) (hmem : part ∈ nodes) : part.size < node.size := by
  have hle := size_le_sizeNodes hmem
  have heq := node.size_eq
  simp only [hitems, sizeItems?] at heq
  omega

theorem size_lt_of_additional {node part : Node}
    (hadditional : node.additional = some (.schema part)) : part.size < node.size := by
  have heq := node.size_eq
  simp only [hadditional, sizeAdditional?] at heq
  omega

end Node

/-! ### Parts -/

/-- A site that stands directly inside another one, under any of the keys that
    hold schemas. -/
inductive Site.Holds (site : Site) : Site → Prop where
  | property {name : String} {part : Site} (hmem : (name, part) ∈ site.properties) :
      site.Holds part
  | item {node : Node} (hitems : site.node.items = some (.single node)) :
      site.Holds (site.part .item node)
  | slot {part : Site} (hmem : part ∈ site.slots) : site.Holds part
  | additional {node : Node} (hschema : site.node.additional = some (.schema node)) :
      site.Holds (site.part .additional node)
  | pattern {name : String} {part : Site} (hmem : (name, part) ∈ site.patterns) :
      site.Holds part

namespace Site

/-- A part is smaller than the whole, and one step further down in the same
    tree. -/
theorem Holds.below {site part : Site} (h : site.Holds part) :
    part.node.size < site.node.size ∧ part.place.tree = site.place.tree ∧
      part.place.path.length = site.place.path.length + 1 := by
  cases h with
  | property hmem =>
    obtain ⟨⟨name, node⟩, hnode, heq⟩ := List.mem_map.mp hmem
    cases heq
    exact ⟨Node.size_lt_of_property hnode, rfl, rfl⟩
  | item hitems => exact ⟨Node.size_lt_of_item hitems, rfl, rfl⟩
  | slot hmem =>
    unfold slots at hmem
    split at hmem
    · next nodes hitems =>
      obtain ⟨index, hindex, heq⟩ := List.mem_mapIdx.mp hmem
      cases heq
      exact ⟨Node.size_lt_of_slot hitems (List.getElem_mem hindex), rfl, rfl⟩
    · cases hmem
  | additional hschema => exact ⟨Node.size_lt_of_additional hschema, rfl, rfl⟩
  | pattern hmem =>
    obtain ⟨⟨name, node⟩, hnode, heq⟩ := List.mem_map.mp hmem
    cases heq
    exact ⟨Node.size_lt_of_pattern hnode, rfl, rfl⟩

end Site

namespace Registry

variable {registry : Registry}

/-! ### Models and references -/

theorem site?_eq_some {id : String} {site : Site} :
    registry.site? id = some site ↔
      ∃ node, registry.get? id = some node ∧ Site.root (.entry id) node = site := by
  simp only [site?, Option.map_eq_some_iff]

/-- What `follow` ends at is where it began or a model. -/
theorem follow_eq_or (registry : Registry) (fuel : Nat) (site : Site) :
    registry.follow fuel site = site ∨
      ∃ id, registry.site? id = some (registry.follow fuel site) := by
  induction fuel generalizing site with
  | zero => exact Or.inl rfl
  | succ fuel ih =>
    simp only [follow]
    split
    · next next hnext =>
      obtain ⟨reference, _, hsite⟩ := Option.bind_eq_some_iff.mp hnext
      rcases ih next with heq | hmodel
      · exact Or.inr ⟨reference, by rw [heq]; exact hsite⟩
      · exact Or.inr hmodel
    · exact Or.inl rfl

theorem exists_site?_of_target? {reference : String} {target : Site}
    (h : registry.target? reference = some target) : ∃ id, registry.site? id = some target := by
  obtain ⟨first, hfirst, rfl⟩ := Option.map_eq_some_iff.mp h
  rcases follow_eq_or registry registry.length first with heq | hmodel
  · exact ⟨reference, by rw [heq]; exact hfirst⟩
  · exact hmodel

/-! ### Steps -/

/-- One step down: to a part, or from a reference to the list it stands for once
    all further references are followed. -/
inductive Leads (registry : Registry) (site : Site) : Site → Prop where
  | part {next : Site} (hpart : site.Holds next) : registry.Leads site next
  | list {reference : String} {target : Site}
      (hreference : site.node.reference = some reference)
      (htarget : registry.target? reference = some target)
      (hend : target.node.reference = none) (hkind : target.node.kind = .array) :
      registry.Leads site target

/-- No list reaches itself. -/
def ListsEnd (registry : Registry) : Prop :=
  ∀ id list, registry.site? id = some list → list.node.kind = .array →
    ¬ TransGen registry.Leads list list

/-! ### Chains end -/

/-- The lists of a registry, but for some that are named. -/
def listsBeyond (registry : Registry) (visited : List String) : List (String × Node) :=
  registry.entries.filter fun entry => entry.2.kind = .array ∧ entry.1 ∉ visited

def listSize (registry : Registry) : Nat := Node.sizeEntries (registry.listsBeyond [])

theorem sizeEntries_filter_le (entries : List (String × Node)) {p q : String × Node → Bool}
    (hle : ∀ entry, q entry → p entry) :
    Node.sizeEntries (entries.filter q) ≤ Node.sizeEntries (entries.filter p) := by
  induction entries with
  | nil => exact Nat.le_refl _
  | cons entry rest ih =>
    rw [List.filter_cons, List.filter_cons]
    by_cases hq : q entry
    · rw [if_pos hq, if_pos (hle entry hq)]
      simp only [Node.sizeEntries]
      omega
    · rw [if_neg hq]
      split
      · simp only [Node.sizeEntries]
        omega
      · exact ih

theorem size_add_sizeEntries_filter_le {entries : List (String × Node)}
    {p q : String × Node → Bool} {name : String} {node : Node} (hmem : (name, node) ∈ entries)
    (hp : p (name, node)) (hq : ¬ q (name, node)) (hle : ∀ entry, q entry → p entry) :
    node.size + Node.sizeEntries (entries.filter q) ≤ Node.sizeEntries (entries.filter p) := by
  induction entries with
  | nil => cases hmem
  | cons entry rest ih =>
    rw [List.filter_cons, List.filter_cons]
    rcases List.mem_cons.mp hmem with rfl | hrest
    · have hrest := sizeEntries_filter_le rest hle
      rw [if_neg hq, if_pos hp]
      simp only [Node.sizeEntries]
      omega
    · have hle' := ih hrest
      by_cases hqe : q entry
      · rw [if_pos hqe, if_pos (hle entry hqe)]
        simp only [Node.sizeEntries]
        omega
      · rw [if_neg hqe]
        split
        · simp only [Node.sizeEntries]
          omega
        · exact hle'

/-- A list that was not visited makes room for itself when it is. -/
theorem size_add_listsBeyond_le {id : String} {node : Node} {visited : List String}
    (hget : registry.get? id = some node) (hkind : node.kind = .array) (hnew : id ∉ visited) :
    node.size + Node.sizeEntries (registry.listsBeyond (id :: visited)) ≤
      Node.sizeEntries (registry.listsBeyond visited) := by
  unfold listsBeyond
  refine size_add_sizeEntries_filter_le (Keyed.mem_of_get? hget) ?_ ?_ ?_
  · simp only [hkind, hnew, not_false_eq_true, and_self, decide_true]
  · simp
  · intro entry hentry
    simp only [decide_eq_true_eq, List.mem_cons, not_or] at hentry ⊢
    exact ⟨hentry.1, hentry.2.2⟩

/-- The lists in `visited` all lead to the site. -/
def Visited (registry : Registry) (visited : List String) (site : Site) : Prop :=
  ∀ id ∈ visited, ∃ list, registry.site? id = some list ∧ list.node.kind = .array ∧
    ReflTransGen registry.Leads list site

/-- Every step makes the measure smaller: the size of the node at hand and of the
    lists that were not visited. -/
theorem Leads.descends (hlists : registry.ListsEnd) {visited : List String} {site next : Site}
    (hvisited : registry.Visited visited site) (hleads : registry.Leads site next) :
    ∃ visited', registry.Visited visited' next ∧
      next.node.size + Node.sizeEntries (registry.listsBeyond visited') <
        site.node.size + Node.sizeEntries (registry.listsBeyond visited) := by
  have htail : registry.Visited visited next := by
    intro id hid
    obtain ⟨list, hsite, hkind, hpath⟩ := hvisited id hid
    exact ⟨list, hsite, hkind, hpath.tail hleads⟩
  cases hleads with
  | part hpart => exact ⟨visited, htail, Nat.add_lt_add_right hpart.below.1 _⟩
  | list hreference htarget hend hkind =>
    obtain ⟨id, hsite⟩ := exists_site?_of_target? htarget
    obtain ⟨node, hget, rfl⟩ := site?_eq_some.mp hsite
    have hnew : id ∉ visited := by
      intro hid
      obtain ⟨list, hlist, _, hpath⟩ := hvisited id hid
      rw [hsite, Option.some.injEq] at hlist
      subst hlist
      exact hlists id _ hsite hkind
        (TransGen.tail' hpath (.list hreference htarget hend hkind))
    refine ⟨id :: visited, ?_, ?_⟩
    · intro other hother
      rcases List.mem_cons.mp hother with rfl | hold
      · exact ⟨_, hsite, hkind, .refl⟩
      · exact htail other hold
    · have hroom := size_add_listsBeyond_le hget hkind hnew
      have hpos := site.node.size_pos
      simp only [Site.root] at hroom ⊢
      omega

/-- Every chain of steps from the site has at most `n` of them. -/
def Settles (registry : Registry) : Nat → Site → Prop
  | 0, site => ∀ next, ¬ registry.Leads site next
  | n + 1, site => ∀ next, registry.Leads site next → registry.Settles n next

theorem Settles.step {n : Nat} {site next : Site} (h : registry.Settles n site)
    (hleads : registry.Leads site next) : ∃ m, n = m + 1 ∧ registry.Settles m next := by
  cases n with
  | zero => exact (h next hleads).elim
  | succ n => exact ⟨n, rfl, h next hleads⟩

theorem Settles.mono {m n : Nat} {site : Site} (h : registry.Settles m site) (hle : m ≤ n) :
    registry.Settles n site := by
  induction n generalizing m site with
  | zero =>
    obtain rfl := Nat.le_zero.mp hle
    exact h
  | succ n ih =>
    intro next hleads
    obtain ⟨k, rfl, hk⟩ := h.step hleads
    exact ih hk (Nat.le_of_succ_le_succ hle)

/-- A chain leaves fewer steps to whatever it meets. -/
theorem Settles.path {n : Nat} {site last : Site} (h : registry.Settles n site)
    (hpath : TransGen registry.Leads site last) :
    ∃ m, n = m + 1 ∧ registry.Settles m last := by
  induction hpath with
  | single hleads => exact h.step hleads
  | tail _ hleads ih =>
    obtain ⟨m, rfl, hm⟩ := ih
    obtain ⟨k, rfl, hk⟩ := hm.step hleads
    exact ⟨k + 1, rfl, hk.mono (Nat.le_succ k)⟩

private theorem settles_of_visited (hlists : registry.ListsEnd) (n : Nat) (visited : List String)
    (site : Site) (hvisited : registry.Visited visited site)
    (hsize : site.node.size + Node.sizeEntries (registry.listsBeyond visited) ≤ n + 1) :
    registry.Settles n site := by
  induction n generalizing visited site with
  | zero =>
    intro next hleads
    obtain ⟨visited', _, hlt⟩ := hleads.descends hlists hvisited
    have hpos := next.node.size_pos
    omega
  | succ n ih =>
    intro next hleads
    obtain ⟨visited', hvisited', hlt⟩ := hleads.descends hlists hvisited
    exact ih visited' next hvisited' (by omega)

/-- **Chains end.**  Where no list reaches itself, the sizes of a node and of all
    lists bound the chains from it. -/
theorem ListsEnd.settles (hlists : registry.ListsEnd) (site : Site) {n : Nat}
    (hsize : site.node.size + registry.listSize ≤ n + 1) : registry.Settles n site :=
  settles_of_visited hlists n [] site (fun _ hid => (List.not_mem_nil hid).elim) hsize

theorem listSize_le_size (registry : Registry) : registry.listSize ≤ registry.size := by
  have hle := sizeEntries_filter_le registry.entries (p := fun _ => true)
    (q := fun entry => entry.2.kind = .array ∧ entry.1 ∉ ([] : List String)) (fun _ _ => rfl)
  rwa [List.filter_eq_self.mpr fun _ _ => rfl] at hle

/-- A model that is no list leaves room for itself beside all lists. -/
theorem size_add_listSize_le {id : String} {site : Site} (hsite : registry.site? id = some site)
    (hkind : site.node.kind ≠ .array) : site.node.size + registry.listSize ≤ registry.size := by
  obtain ⟨node, hget, rfl⟩ := site?_eq_some.mp hsite
  have hle := size_add_sizeEntries_filter_le (Keyed.mem_of_get? hget) (p := fun _ => true)
    (q := fun entry => entry.2.kind = .array ∧ entry.1 ∉ ([] : List String)) rfl
    (fun hq => hkind (of_decide_eq_true hq).1) (fun _ _ => rfl)
  rwa [List.filter_eq_self.mpr fun _ _ => rfl] at hle

/-! ### Chains do not come back -/

/-- A site in the tree of a model, at any depth. -/
def Rooted (registry : Registry) (site : Site) : Prop :=
  ∃ id model, registry.site? id = some model ∧ ReflTransGen Site.Holds model site

theorem rooted_of_site? {id : String} {site : Site} (h : registry.site? id = some site) :
    registry.Rooted site := ⟨id, site, h, .refl⟩

theorem Rooted.part {site part : Site} (h : registry.Rooted site) (hpart : site.Holds part) :
    registry.Rooted part := by
  obtain ⟨id, model, hmodel, hpath⟩ := h
  exact ⟨id, model, hmodel, hpath.tail hpart⟩

theorem Rooted.step {site next : Site} (h : registry.Rooted site)
    (hleads : registry.Leads site next) : registry.Rooted next := by
  cases hleads with
  | part hpart => exact h.part hpart
  | list _ htarget _ _ =>
    obtain ⟨other, hother⟩ := exists_site?_of_target? htarget
    exact rooted_of_site? hother

theorem Rooted.path {site last : Site} (h : registry.Rooted site)
    (hpath : ReflTransGen registry.Leads site last) : registry.Rooted last := by
  induction hpath with
  | refl => exact h
  | tail _ hleads ih => exact ih.step hleads

theorem leads_of_holds {site last : Site} (hpath : ReflTransGen Site.Holds site last) :
    ReflTransGen registry.Leads site last := by
  induction hpath with
  | refl => exact .refl
  | tail _ hpart ih => exact ih.tail (.part hpart)

theorem tree_of_holds {site last : Site} (hpath : ReflTransGen Site.Holds site last) :
    last.place.tree = site.place.tree := by
  induction hpath with
  | refl => rfl
  | tail _ hpart ih => exact hpart.below.2.1.trans ih

/-- A chain ends further down in the tree where it began, or in the tree of a
    list that it jumped to. -/
theorem further_or_in_list {site last : Site} (hpath : TransGen registry.Leads site last) :
    (last.place.tree = site.place.tree ∧ site.place.path.length < last.place.path.length) ∨
      ∃ id list, registry.site? id = some list ∧ list.node.kind = .array ∧
        TransGen registry.Leads site list ∧ last.place.tree = .entry id := by
  have hjump : ∀ {middle target : Site} {reference : String},
      ReflTransGen registry.Leads site middle → middle.node.reference = some reference →
      registry.target? reference = some target → target.node.reference = none →
      target.node.kind = .array →
      ∃ id list, registry.site? id = some list ∧ list.node.kind = .array ∧
        TransGen registry.Leads site list ∧ target.place.tree = .entry id := by
    intro middle target reference hbefore hreference htarget hend hkind
    obtain ⟨id, hsite⟩ := exists_site?_of_target? htarget
    have htree : target.place.tree = .entry id := by
      obtain ⟨node, _, rfl⟩ := site?_eq_some.mp hsite
      rfl
    exact ⟨id, target, hsite, hkind,
      TransGen.tail' hbefore (.list hreference htarget hend hkind), htree⟩
  induction hpath with
  | single hleads =>
    cases hleads with
    | part hpart => exact Or.inl ⟨hpart.below.2.1, by rw [hpart.below.2.2]; omega⟩
    | list hreference htarget hend hkind =>
      exact Or.inr (hjump .refl hreference htarget hend hkind)
  | tail hbefore hleads ih =>
    cases hleads with
    | part hpart =>
      rcases ih with ⟨htree, hlen⟩ | ⟨id, list, hlist, hkind, hreach, htree⟩
      · exact Or.inl ⟨hpart.below.2.1.trans htree, by rw [hpart.below.2.2]; omega⟩
      · exact Or.inr ⟨id, list, hlist, hkind, hreach, hpart.below.2.1.trans htree⟩
    | list hreference htarget hend hkind =>
      exact Or.inr (hjump hbefore.to_reflTransGen hreference htarget hend hkind)

/-- **Chains do not come back.**  Where no list reaches itself, a chain from a
    site below a model never meets the place of that site again. -/
theorem ListsEnd.place_ne (hlists : registry.ListsEnd) {site last : Site}
    (hroot : registry.Rooted site) (hpath : TransGen registry.Leads site last) :
    last.place ≠ site.place := by
  intro hplace
  rcases further_or_in_list hpath with ⟨_, hlen⟩ | ⟨id, list, hlist, hkind, hreach, htree⟩
  · rw [hplace] at hlen
    exact Nat.lt_irrefl _ hlen
  · obtain ⟨other, model, hmodel, hdown⟩ := hroot
    obtain ⟨node, _, hroot⟩ := site?_eq_some.mp hmodel
    have hother : site.place.tree = .entry other := by
      rw [tree_of_holds hdown, ← hroot]
      rfl
    have hid : id = other := by
      rw [hplace, hother, Tree.entry.injEq] at htree
      exact htree.symm
    subst hid
    rw [hlist, Option.some.injEq] at hmodel
    subst hmodel
    exact hlists id list hlist hkind (TransGen.trans_right (leads_of_holds hdown) hreach)

end Registry

end Typewright
