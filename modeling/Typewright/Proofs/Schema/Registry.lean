/-
  Typewright/Proofs/Schema/Registry.lean
  ======================================
  **Well-formed registries** — every identifier stands once, and names the node
  that carries it.

  A model that is added under its own identifier, if that is new, keeps a registry
  well-formed.
-/
import Typewright.Proofs.Keyed
import Typewright.Schema.Registry

namespace Typewright

/-- Every identifier stands once and is that of its node. -/
structure Registry.WellFormed (registry : Registry) : Prop where
  distinct : registry.ids.Nodup
  keyed : ∀ entry ∈ registry.entries, entry.2.id = some entry.1

namespace Registry

variable {registry : Registry}

/-! ### Sites of models -/

/-- The sites of the models are those that are found by an identifier. -/
theorem WellFormed.mem_sites_iff (hwf : registry.WellFormed) {site : Site} :
    site ∈ registry.sites ↔ ∃ id, registry.site? id = some site := by
  unfold sites site? get?
  simp only [List.mem_map, Option.map_eq_some_iff]
  constructor
  · rintro ⟨⟨id, node⟩, hmem, rfl⟩
    exact ⟨id, node, Keyed.get?_eq_some_of_mem hwf.distinct hmem, rfl⟩
  · rintro ⟨id, node, hget, rfl⟩
    exact ⟨(id, node), Keyed.mem_of_get? hget, rfl⟩

theorem WellFormed.id_of_site? (hwf : registry.WellFormed) {id : String} {site : Site}
    (h : registry.site? id = some site) : site.node.id = some id := by
  obtain ⟨node, hget, rfl⟩ := Option.map_eq_some_iff.mp h
  exact hwf.keyed (id, node) (Keyed.mem_of_get? hget)

theorem contains_of_site? {id : String} {site : Site} (h : registry.site? id = some site) :
    registry.contains id := by
  obtain ⟨node, hget, -⟩ := Option.map_eq_some_iff.mp h
  exact Option.isSome_iff_exists.mpr ⟨node, hget⟩

theorem exists_site?_of_contains {id : String} (h : registry.contains id) :
    ∃ site, registry.site? id = some site := by
  obtain ⟨node, hget⟩ := Option.isSome_iff_exists.mp h
  exact ⟨Site.root (.entry id) node, by rw [site?, get?, hget, Option.map_some]⟩

/-! ### One more model -/

theorem WellFormed.addModel (hwf : registry.WellFormed) {id : String} {model : Node}
    (hid : model.id = some id) (hnew : ¬ registry.contains id) :
    (⟨registry.entries ++ [(id, model)]⟩ : Registry).WellFormed := by
  constructor
  · exact Keyed.nodup_concat hwf.distinct (fun hknown => hnew (Keyed.contains_iff.mpr hknown)) model
  · intro entry hentry
    rcases List.mem_append.mp hentry with hold | hlast
    · exact hwf.keyed entry hold
    · obtain rfl := List.mem_singleton.mp hlast
      exact hid

end Registry

end Typewright
