/-
  Typewright/Proofs/Schema/Agreement.lean
  =======================================
  **Registries that agree** — two registries that give the same answers to all that is
  asked about some sites.

  Rendering asks a registry three things: what a reference stands for, whether an
  identifier is that of a model, and whether a name is.  The first two are asked of
  sites that stand below models, so a registry may be changed elsewhere.  Two changes
  are looked at.

    * The entries in another order: all lookups stay as they were, and chains of
      references are followed equally far (`agreesOn_of_perm`).
    * One more entry that nothing refers to: no chain of references meets it, and the
      chains had come to their ends before the one more step that it allows
      (`agreesOn_insert`).
-/
import Typewright.Proofs.Schema.Decided

namespace Typewright

/-! ### Sizes -/

namespace Node

theorem sizeEntries_append (entries others : List (String × Node)) :
    sizeEntries (entries ++ others) = sizeEntries entries + sizeEntries others := by
  induction entries with
  | nil => simp [sizeEntries]
  | cons entry rest ih =>
    simp only [List.cons_append, sizeEntries, ih]
    omega

theorem sizeEntries_perm {entries others : List (String × Node)} (hperm : entries.Perm others) :
    sizeEntries entries = sizeEntries others := by
  induction hperm with
  | nil => rfl
  | cons entry _ ih => simp only [sizeEntries, ih]
  | swap entry other rest =>
    simp only [sizeEntries]
    omega
  | trans _ _ ih ih' => exact ih.trans ih'

end Node

/-! ### Agreement -/

namespace Registry

variable {registry other : Registry}

/-- The two registries answer alike whatever is asked about the sites in a region, which
    all parts and references of its sites stay in. -/
structure AgreesOn (registry other : Registry) (inside : Site → Prop) : Prop where
  part {site part : Site} (hsite : inside site) (hpart : site.Holds part) : inside part
  /-- The schema of any value refers to nothing. -/
  anyValue {site : Site} (hany : site.node = {}) : inside site
  target?_eq {site : Site} {reference : String} (hsite : inside site)
    (hreference : site.node.reference = some reference) :
    other.target? reference = registry.target? reference
  target {site target : Site} {reference : String} (hsite : inside site)
    (hreference : site.node.reference = some reference)
    (htarget : registry.target? reference = some target) : inside target
  contains_eq {site : Site} {id : String} (hsite : inside site) (hid : site.node.id = some id) :
    other.contains id = registry.contains id

/-! ### Another order -/

theorem follow_congr (hsite? : ∀ id, other.site? id = registry.site? id) (fuel : Nat)
    (site : Site) : other.follow fuel site = registry.follow fuel site := by
  induction fuel generalizing site with
  | zero => rfl
  | succ fuel ih =>
    have hbind : site.node.reference.bind other.site? =
        site.node.reference.bind registry.site? := by
      congr 1
      exact funext hsite?
    simp only [follow, hbind]
    cases site.node.reference.bind registry.site? with
    | none => rfl
    | some next => exact ih next

theorem size_perm (hperm : registry.entries.Perm other.entries) : registry.size = other.size :=
  Node.sizeEntries_perm hperm

section

variable (hdistinct : registry.ids.Nodup) (hperm : registry.entries.Perm other.entries)
include hdistinct hperm

theorem site?_perm (id : String) : other.site? id = registry.site? id := by
  unfold site? get?
  rw [Keyed.get?_perm hperm hdistinct]

theorem agreesOn_of_perm : registry.AgreesOn other fun _ => True where
  part _ _ := trivial
  anyValue _ := trivial
  target?_eq {_ reference} _ _ := by
    unfold target? length
    rw [site?_perm hdistinct hperm, hperm.length_eq]
    congr 1
    exact funext (follow_congr (site?_perm hdistinct hperm) other.entries.length)
  target _ _ _ := trivial
  contains_eq {_ id} _ _ := by
    unfold contains Keyed.contains
    rw [Keyed.get?_perm hperm hdistinct]

end

/-! ### One more entry -/

/-- No site of the registry refers to the identifier or has it. -/
def Unmentioned (registry : Registry) (id : String) : Prop :=
  ∀ site, registry.Rooted site → site.node.reference ≠ some id ∧ site.node.id ≠ some id

theorem unmentioned_iff {id : String} :
    registry.Unmentioned id ↔ ∀ key ∈ registry.ids, ∀ model ∈ registry.site? key,
      ∀ site ∈ model.within model.node.size,
        site.node.reference ≠ some id ∧ site.node.id ≠ some id := by
  constructor
  · intro h key _ model hmodel site hsite
    exact h site ⟨key, model, hmodel, Site.holds_of_mem_within hsite⟩
  · rintro h site ⟨key, model, hmodel, hpath⟩
    exact h key (mem_ids_of_site? hmodel) model hmodel site
      (Site.mem_within_of_holds hpath (Nat.le_refl _))

instance decidableUnmentioned (registry : Registry) (id : String) :
    Decidable (registry.Unmentioned id) := decidable_of_iff _ unmentioned_iff.symm

section

variable {before after : List (String × Node)} {id : String} {model : Node}

theorem size_le_insert :
    (⟨before ++ after⟩ : Registry).size ≤ (⟨before ++ (id, model) :: after⟩ : Registry).size := by
  simp only [size, Node.sizeEntries_append, Node.sizeEntries]
  omega

theorem site?_insert {key : String} (hne : key ≠ id) :
    (⟨before ++ (id, model) :: after⟩ : Registry).site? key =
      (⟨before ++ after⟩ : Registry).site? key := by
  unfold site? get?
  rw [Keyed.get?_insert hne]

/-- Following references from a model never meets the new entry. -/
theorem follow_insert (hunmentioned : (⟨before ++ after⟩ : Registry).Unmentioned id) (fuel : Nat)
    {site : Site} (hroot : (⟨before ++ after⟩ : Registry).Rooted site) :
    (⟨before ++ (id, model) :: after⟩ : Registry).follow fuel site =
      (⟨before ++ after⟩ : Registry).follow fuel site := by
  induction fuel generalizing site with
  | zero => rfl
  | succ fuel ih =>
    have hbind : site.node.reference.bind (⟨before ++ (id, model) :: after⟩ : Registry).site? =
        site.node.reference.bind (⟨before ++ after⟩ : Registry).site? := by
      cases hreference : site.node.reference with
      | none => rfl
      | some reference =>
        have hne : reference ≠ id := by
          rintro rfl
          exact (hunmentioned site hroot).1 hreference
        exact site?_insert hne
    simp only [follow, hbind]
    cases hnext : site.node.reference.bind (⟨before ++ after⟩ : Registry).site? with
    | none => rfl
    | some next =>
      obtain ⟨reference, -, hmodel⟩ := Option.bind_eq_some_iff.mp hnext
      exact ih (rooted_of_site? hmodel)

theorem target?_insert (haliases : (⟨before ++ after⟩ : Registry).AliasesEnd)
    (hunmentioned : (⟨before ++ after⟩ : Registry).Unmentioned id) {reference : String}
    (hne : reference ≠ id) :
    (⟨before ++ (id, model) :: after⟩ : Registry).target? reference =
      (⟨before ++ after⟩ : Registry).target? reference := by
  have hlength : (⟨before ++ (id, model) :: after⟩ : Registry).length =
      (⟨before ++ after⟩ : Registry).length + 1 := by
    simp only [length, List.length_append, List.length_cons]
    omega
  unfold target?
  rw [site?_insert hne]
  cases hfirst : (⟨before ++ after⟩ : Registry).site? reference with
  | none => rfl
  | some first =>
    rw [Option.map_some, Option.map_some, follow_insert hunmentioned _ (rooted_of_site? hfirst),
      hlength, follow_add (haliases.follow_ends hfirst)]

theorem not_holds_of_any {site part : Site} (hany : site.node = {}) : ¬ site.Holds part := by
  intro hpart
  have hlt := hpart.below.1
  have hpos := part.node.size_pos
  have hone : ({} : Node).size = 1 := rfl
  rw [hany, hone] at hlt
  omega

/-- An entry that nothing refers to changes no answer about the others. -/
theorem agreesOn_insert (haliases : (⟨before ++ after⟩ : Registry).AliasesEnd)
    (hunmentioned : (⟨before ++ after⟩ : Registry).Unmentioned id) :
    (⟨before ++ after⟩ : Registry).AgreesOn ⟨before ++ (id, model) :: after⟩
      fun site => (⟨before ++ after⟩ : Registry).Rooted site ∨ site.node = {} where
  part {site part} hsite hpart := by
    rcases hsite with hroot | hany
    · exact Or.inl (hroot.part hpart)
    · exact (not_holds_of_any hany hpart).elim
  anyValue hany := Or.inr hany
  target?_eq {site reference} hsite hreference := by
    rcases hsite with hroot | hany
    · apply target?_insert haliases hunmentioned
      rintro rfl
      exact (hunmentioned site hroot).1 hreference
    · rw [hany] at hreference
      cases hreference
  target {site target reference} hsite hreference htarget := by
    obtain ⟨id, hmodel⟩ := exists_site?_of_target? htarget
    exact Or.inl (rooted_of_site? hmodel)
  contains_eq {site key} hsite hid := by
    rcases hsite with hroot | hany
    · have hne : key ≠ id := by
        rintro rfl
        exact (hunmentioned site hroot).2 hid
      unfold contains
      rw [Keyed.contains, Keyed.contains, Keyed.get?_insert hne]
    · rw [hany] at hid
      cases hid

end

end Registry

end Typewright
