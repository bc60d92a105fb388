/-
  Typewright/Proofs/Schema/Decided.lean
  =====================================
  **Registries that can be checked** — the properties that theorems ask of a
  registry, as computations.

  All of them speak of every chain of steps or every node of a tree.  A node has
  finitely many parts and a chain that ends has a bound, so each of them comes down
  to looking at lists.
-/
import Typewright.Proofs.Schema.References

namespace Typewright

open Relation (ReflTransGen TransGen)

instance Registry.decidableWellFormed (registry : Registry) : Decidable registry.WellFormed :=
  decidable_of_iff (registry.ids.Nodup ∧ ∀ entry ∈ registry.entries, entry.2.id = some entry.1)
    ⟨fun h => ⟨h.1, h.2⟩, fun h => ⟨h.distinct, h.keyed⟩⟩

/-! ### Steps as lists -/

namespace Site

def item? (site : Site) : Option Site :=
  match site.node.items with
  | some (.single node) => some (site.part .item node)
  | _ => none

def additionalSchema? (site : Site) : Option Site :=
  match site.node.additional with
  | some (.schema node) => some (site.part .additional node)
  | _ => none

/-- The sites directly inside a site. -/
def parts (site : Site) : List Site :=
  site.properties.map (·.2) ++ site.item?.toList ++ site.slots ++ site.additionalSchema?.toList
    ++ site.patterns.map (·.2)

theorem mem_parts_iff {site part : Site} : part ∈ site.parts ↔ site.Holds part := by
  unfold parts
  simp only [List.mem_append, List.mem_map, Option.mem_toList]
  constructor
  · rintro ((((⟨⟨name, site⟩, hmem, rfl⟩ | hitem) | hslot) | hadditional) |
      ⟨⟨name, site⟩, hmem, rfl⟩)
    · exact .property hmem
    · unfold item? at hitem
      split at hitem
      · next node hitems =>
        cases hitem
        exact .item hitems
      · cases hitem
    · exact .slot hslot
    · unfold additionalSchema? at hadditional
      split at hadditional
      · next node hschema =>
        cases hadditional
        exact .additional hschema
      · cases hadditional
    · exact .pattern hmem
  · intro hholds
    cases hholds with
    | property hmem => exact Or.inl (Or.inl (Or.inl (Or.inl ⟨_, hmem, rfl⟩)))
    | item hitems =>
      refine Or.inl (Or.inl (Or.inl (Or.inr ?_)))
      unfold item?
      rw [hitems]
    | slot hmem => exact Or.inl (Or.inl (Or.inr hmem))
    | additional hschema =>
      refine Or.inl (Or.inr ?_)
      unfold additionalSchema?
      rw [hschema]
    | pattern hmem => exact Or.inr ⟨_, hmem, rfl⟩

end Site

namespace Registry

variable {registry : Registry}

def list? (registry : Registry) (site : Site) : Option Site :=
  (site.node.reference.bind registry.target?).filter fun target =>
    target.node.reference.isNone ∧ target.node.kind = .array

/-- The sites one step down. -/
def nexts (registry : Registry) (site : Site) : List Site :=
  site.parts ++ (registry.list? site).toList

theorem mem_nexts_iff {site next : Site} :
    next ∈ registry.nexts site ↔ registry.Leads site next := by
  unfold nexts list?
  rw [List.mem_append, Site.mem_parts_iff, Option.mem_toList,
    Option.filter_eq_some_iff]
  simp only [decide_eq_true_eq, Option.isNone_iff_eq_none]
  constructor
  · rintro (hpart | ⟨hbind, hend, hkind⟩)
    · exact .part hpart
    · obtain ⟨reference, hreference, htarget⟩ := Option.bind_eq_some_iff.mp hbind
      exact .list hreference htarget hend hkind
  · intro hleads
    cases hleads with
    | part hpart => exact Or.inl hpart
    | list hreference htarget hend hkind =>
      exact Or.inr ⟨Option.bind_eq_some_iff.mpr ⟨_, hreference, htarget⟩, hend, hkind⟩

/-! ### Lists end -/

instance decidableSettles (registry : Registry) :
    (n : Nat) → (site : Site) → Decidable (registry.Settles n site)
  | 0, site =>
    decidable_of_iff (registry.nexts site = [])
      ⟨fun hnil next hleads => by
        rw [← mem_nexts_iff, hnil] at hleads
        exact List.not_mem_nil hleads,
      fun h => List.eq_nil_iff_forall_not_mem.mpr fun next hmem => h next (mem_nexts_iff.mp hmem)⟩
  | n + 1, site =>
    have := decidableSettles registry n
    decidable_of_iff (∀ next ∈ registry.nexts site, registry.Settles n next)
      ⟨fun h next hleads => h next (mem_nexts_iff.mpr hleads),
        fun h next hmem => h next (mem_nexts_iff.mp hmem)⟩

theorem Settles.not_transGen {n : Nat} {site : Site} (h : registry.Settles n site) :
    ¬ TransGen registry.Leads site site := by
  induction n with
  | zero =>
    intro hpath
    obtain ⟨m, hm, -⟩ := h.path hpath
    cases hm
  | succ n ih =>
    intro hpath
    obtain ⟨m, hm, hsettled⟩ := h.path hpath
    obtain rfl := Nat.succ.inj hm
    exact ih hsettled hpath

/-- No list reaches itself just if all chains from lists end in time. -/
theorem listsEnd_iff :
    registry.ListsEnd ↔ ∀ id ∈ registry.ids, ∀ list ∈ registry.site? id,
      list.node.kind = .array → registry.Settles (list.node.size + registry.listSize) list := by
  constructor
  · intro hlists id _ list _ _
    exact hlists.settles list (Nat.le_succ _)
  · intro h id list hlist hkind
    exact (h id (mem_ids_of_site? hlist) list hlist hkind).not_transGen

instance decidableListsEnd (registry : Registry) : Decidable registry.ListsEnd :=
  decidable_of_iff _ listsEnd_iff.symm

end Registry

/-! ### References resolve -/

namespace Site

/-- The site and all sites inside it, down to a depth. -/
def within : Nat → Site → List Site
  | 0, site => [site]
  | depth + 1, site => site :: site.parts.flatMap (within depth)

theorem mem_within_self (depth : Nat) (site : Site) : site ∈ site.within depth := by
  cases depth with
  | zero => exact List.mem_singleton.mpr rfl
  | succ depth => exact List.mem_cons_self

theorem holds_of_mem_within {depth : Nat} {site last : Site} (h : last ∈ site.within depth) :
    ReflTransGen Site.Holds site last := by
  induction depth generalizing site with
  | zero =>
    obtain rfl := List.mem_singleton.mp h
    exact .refl
  | succ depth ih =>
    rcases List.mem_cons.mp h with rfl | h
    · exact .refl
    · obtain ⟨part, hpart, hlast⟩ := List.mem_flatMap.mp h
      exact .head (mem_parts_iff.mp hpart) (ih hlast)

theorem mem_within_of_holds {depth : Nat} {site last : Site}
    (h : ReflTransGen Site.Holds site last) (hsize : site.node.size ≤ depth) :
    last ∈ site.within depth := by
  induction depth generalizing site with
  | zero => exact absurd site.node.size_pos (Nat.not_lt.mpr hsize)
  | succ depth ih =>
    rcases ReflTransGen.cases_head h with rfl | ⟨part, hpart, hrest⟩
    · exact mem_within_self _ _
    · have hlt := hpart.below.1
      refine List.mem_cons_of_mem _ (List.mem_flatMap.mpr ⟨part, mem_parts_iff.mpr hpart, ?_⟩)
      exact ih hrest (by omega)

end Site

namespace Registry

variable {registry : Registry}

/-- Every reference names a model just if those in the trees of all models do. -/
theorem refsResolve_iff :
    registry.RefsResolve ↔ ∀ id ∈ registry.ids, ∀ model ∈ registry.site? id,
      ∀ site ∈ model.within model.node.size, ∀ reference ∈ site.node.reference,
        registry.contains reference := by
  constructor
  · intro hrefs id _ model hmodel site hsite reference hreference
    exact hrefs site reference ⟨id, model, hmodel, Site.holds_of_mem_within hsite⟩ hreference
  · rintro h site reference ⟨id, model, hmodel, hpath⟩ hreference
    exact h id (mem_ids_of_site? hmodel) model hmodel site
      (Site.mem_within_of_holds hpath (Nat.le_refl _)) reference hreference

instance decidableRefsResolve (registry : Registry) : Decidable registry.RefsResolve :=
  decidable_of_iff _ refsResolve_iff.symm

/-! ### Chains of references end -/

/-- No model refers to itself just if following references comes to an end from
    every model. -/
theorem aliasesEnd_iff :
    registry.AliasesEnd ↔ ∀ id ∈ registry.ids, ∀ model ∈ registry.site? id,
      (registry.follow registry.length model).node.reference.bind registry.site? = none := by
  constructor
  · intro haliases id _ model hmodel
    exact haliases.follow_ends hmodel
  · intro h id model hmodel hcircle
    have hends := h id (mem_ids_of_site? hmodel) model hmodel
    obtain ⟨next, hnext, -⟩ := TransGen.head'_iff.mp (transGen_follow hcircle registry.length)
    rw [hnext.bind_eq] at hends
    cases hends

instance decidableAliasesEnd (registry : Registry) : Decidable registry.AliasesEnd :=
  decidable_of_iff
    (∀ id ∈ registry.ids, ∀ model ∈ registry.site? id,
      ((registry.follow registry.length model).node.reference.bind registry.site?).isNone)
    (by simpa only [Option.isNone_iff_eq_none] using aliasesEnd_iff.symm)

end Registry

end Typewright
