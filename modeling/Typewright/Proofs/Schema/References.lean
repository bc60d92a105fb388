/-
  Typewright/Proofs/Schema/References.lean
  ========================================
  **Chains of references** — what a reference stands for where every reference
  names a model and no chain of them is a circle.

  A chain that passes a model twice goes round in a circle.  Any other one passes every
  model at most once, so as many steps as there are models take it to its end, a model
  that refers to nothing.
-/
import Typewright.Proofs.Schema.Descent
import Typewright.Proofs.Schema.Registry

namespace Typewright.Registry

open Relation (ReflTransGen TransGen)

variable {registry : Registry}

/-- Every reference in the registry, at any depth, names a model. -/
def RefsResolve (registry : Registry) : Prop :=
  ∀ site reference, registry.Rooted site → site.node.reference = some reference →
    registry.contains reference

def Refers (registry : Registry) (site next : Site) : Prop :=
  ∃ reference, site.node.reference = some reference ∧ registry.site? reference = some next

/-- No model refers to itself, be it over others. -/
def AliasesEnd (registry : Registry) : Prop :=
  ∀ id model, registry.site? id = some model → ¬ TransGen registry.Refers model model

theorem mem_ids_of_site? {id : String} {site : Site} (h : registry.site? id = some site) :
    id ∈ registry.ids := by
  obtain ⟨node, hget, -⟩ := site?_eq_some.mp h
  exact List.mem_map_of_mem (f := (·.1)) (Keyed.mem_of_get? hget)

/-! ### Following a chain -/

theorem Refers.bind_eq {site next : Site} (h : registry.Refers site next) :
    site.node.reference.bind registry.site? = some next := by
  obtain ⟨reference, hreference, hsite⟩ := h
  rw [hreference, Option.bind_some, hsite]

/-- Following a circle stays on a circle. -/
theorem transGen_follow {site : Site} (h : TransGen registry.Refers site site) (fuel : Nat) :
    TransGen registry.Refers (registry.follow fuel site) (registry.follow fuel site) := by
  induction fuel generalizing site with
  | zero => exact h
  | succ fuel ih =>
    obtain ⟨next, hnext, hback⟩ := TransGen.head'_iff.mp h
    simp only [follow, hnext.bind_eq]
    exact ih (TransGen.tail' hback hnext)

/-- A chain that has come to its end stays there. -/
theorem follow_add {fuel : Nat} {site : Site}
    (hend : (registry.follow fuel site).node.reference.bind registry.site? = none) (more : Nat) :
    registry.follow (fuel + more) site = registry.follow fuel site := by
  induction fuel generalizing site with
  | zero =>
    cases more with
    | zero => rfl
    | succ more =>
      have hnone : site.node.reference.bind registry.site? = none := hend
      rw [Nat.zero_add]
      simp only [follow, hnone]
  | succ fuel ih =>
    rw [Nat.add_right_comm]
    simp only [follow] at hend ⊢
    cases hnext : site.node.reference.bind registry.site? with
    | none => rfl
    | some next =>
      rw [hnext] at hend
      exact ih hend

/-! ### Models that are passed -/

/-- The models in `passed` are distinct and all refer to the site, if over others. -/
structure Passed (registry : Registry) (passed : List String) (site : Site) : Prop where
  distinct : passed.Nodup
  reach : ∀ id ∈ passed, ∃ model, registry.site? id = some model ∧
    TransGen registry.Refers model site

/-- A passed model that is met again refers to itself. -/
theorem Passed.circles {passed : List String} {id : String} {site : Site}
    (h : registry.Passed passed site) (hsite : registry.site? id = some site)
    (hold : id ∈ passed) : TransGen registry.Refers site site := by
  obtain ⟨model, hmodel, hpath⟩ := h.reach id hold
  rw [hsite, Option.some.injEq] at hmodel
  subst hmodel
  exact hpath

theorem Passed.length_lt {passed : List String} {id : String} {site : Site}
    (h : registry.Passed passed site) (hsite : registry.site? id = some site)
    (hnew : id ∉ passed) : passed.length < registry.length := by
  have hsub : id :: passed ⊆ registry.ids := by
    intro other hother
    rcases List.mem_cons.mp hother with rfl | hold
    · exact mem_ids_of_site? hsite
    · obtain ⟨model, hmodel, -⟩ := h.reach other hold
      exact mem_ids_of_site? hmodel
  have hdistinct := List.nodup_cons.mpr ⟨hnew, h.distinct⟩
  have hle := hdistinct.length_le_of_subset hsub
  rwa [ids, List.length_map] at hle

theorem Passed.next {passed : List String} {id : String} {site next : Site}
    (h : registry.Passed passed site) (hsite : registry.site? id = some site)
    (hnew : id ∉ passed) (hnext : registry.Refers site next) :
    registry.Passed (id :: passed) next := by
  refine ⟨List.nodup_cons.mpr ⟨hnew, h.distinct⟩, ?_⟩
  intro other hother
  rcases List.mem_cons.mp hother with rfl | hold
  · exact ⟨site, hsite, .single hnext⟩
  · obtain ⟨model, hmodel, hpath⟩ := h.reach other hold
    exact ⟨model, hmodel, hpath.tail hnext⟩

/-- With a step for every model that was not passed, following comes to the end of the
    chain before its last step, or into a circle. -/
theorem Passed.ends_or_circles {fuel : Nat} {passed : List String} {id : String} {site : Site}
    (h : registry.Passed passed site) (hsite : registry.site? id = some site)
    (hsteps : passed.length + fuel = registry.length) :
    (∃ steps < fuel,
        (registry.follow steps site).node.reference.bind registry.site? = none) ∨
      TransGen registry.Refers (registry.follow fuel site) (registry.follow fuel site) := by
  induction fuel generalizing passed id site with
  | zero =>
    by_cases hold : id ∈ passed
    · exact Or.inr (h.circles hsite hold)
    · have hlt := h.length_lt hsite hold
      omega
  | succ fuel ih =>
    by_cases hold : id ∈ passed
    · exact Or.inr (transGen_follow (h.circles hsite hold) (fuel + 1))
    · cases hnext : site.node.reference.bind registry.site? with
      | none => exact Or.inl ⟨0, Nat.succ_pos fuel, hnext⟩
      | some next =>
        obtain ⟨reference, hreference, hsite'⟩ := Option.bind_eq_some_iff.mp hnext
        have hpassed := h.next hsite hold ⟨reference, hreference, hsite'⟩
        have hrest := ih hpassed hsite' (by rw [List.length_cons]; omega)
        rcases hrest with ⟨steps, hlt, hend⟩ | hcircle
        · refine Or.inl ⟨steps + 1, Nat.succ_lt_succ hlt, ?_⟩
          simp only [follow, hnext]
          exact hend
        · refine Or.inr ?_
          simp only [follow, hnext]
          exact hcircle

/-- As many steps as there are models lead to the end of a chain, or into a circle. -/
theorem ends_or_circles {id : String} {site : Site} (hsite : registry.site? id = some site) :
    (∃ steps < registry.length,
        (registry.follow steps site).node.reference.bind registry.site? = none) ∨
      TransGen registry.Refers (registry.follow registry.length site)
        (registry.follow registry.length site) := by
  have hpassed : registry.Passed [] site :=
    ⟨List.nodup_nil, fun _ hid => (List.not_mem_nil hid).elim⟩
  exact hpassed.ends_or_circles hsite (by rw [List.length_nil, Nat.zero_add])

theorem AliasesEnd.follow_ends (haliases : registry.AliasesEnd) {id : String} {site : Site}
    (hsite : registry.site? id = some site) :
    (registry.follow registry.length site).node.reference.bind registry.site? = none := by
  rcases ends_or_circles hsite with ⟨steps, hlt, hend⟩ | hcircle
  · have hstays := follow_add hend (registry.length - steps)
    rw [Nat.add_sub_cancel' (Nat.le_of_lt hlt)] at hstays
    rwa [hstays]
  · obtain ⟨key, hmodel⟩ : ∃ key,
        registry.site? key = some (registry.follow registry.length site) := by
      rcases follow_eq_or registry registry.length site with heq | hmodel
      · exact ⟨id, by rw [heq]; exact hsite⟩
      · exact hmodel
    exact absurd hcircle (haliases key _ hmodel)

/-- A reference that names a model stands for a model that refers to nothing. -/
theorem exists_target? (hrefs : registry.RefsResolve) (haliases : registry.AliasesEnd)
    {reference : String} (hcontains : registry.contains reference) :
    ∃ target, registry.target? reference = some target ∧ target.node.reference = none := by
  obtain ⟨first, hfirst⟩ := exists_site?_of_contains hcontains
  have htarget : registry.target? reference = some (registry.follow registry.length first) := by
    rw [target?, hfirst, Option.map_some]
  refine ⟨_, htarget, ?_⟩
  cases hlast : (registry.follow registry.length first).node.reference with
  | none => rfl
  | some last =>
    obtain ⟨id, hmodel⟩ := exists_site?_of_target? htarget
    obtain ⟨next, hnext⟩ := exists_site?_of_contains (hrefs _ last (rooted_of_site? hmodel) hlast)
    have hends := haliases.follow_ends hfirst
    rw [hlast, Option.bind_some, hnext] at hends
    cases hends

end Typewright.Registry
