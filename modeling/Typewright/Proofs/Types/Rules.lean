/-
  Typewright/Proofs/Types/Rules.lean
  ==================================
  **Rules for types** — how a site in a field gets its type, as rules without a
  bound on their use.

  `Scope.mapType` takes steps up to a bound.  `Scope.Gives` are the same steps as
  rules of inference, so a derivation is a recursion that came to its end.  Where
  no list reaches itself, `mapType` has a derivation for every field and every
  map (`gives_mapType`): its bound is never met.  The rules leave no choice, so a
  greater bound gives the same type (`mapWithin_eq_mapType`).

  The rules are also what facts about types are proved from.  Each of them follows
  at most one other site, so a type has at most one leaf, and that leaf says which
  generated name stands in the type and which definition it needs.
-/
import Typewright.Proofs.Schema.Descent
import Typewright.Proofs.Schema.Shape
import Typewright.Proofs.Types.Collected

namespace Typewright

open Relation (ReflTransGen TransGen)

/-! ### The rules -/

namespace Scope

/-- `scope.Gives field shape site type`: in a field of the scope, the site has the
    type in the shape. -/
inductive Gives (scope : Scope) (field : String) : Shape → Site → Traced TypeExpr → Prop where
  | scalar (type : Scalar) (site : Site) :
      scope.Gives field (.scalar type) site (pure (.scalar type))
  | union (site : Site) : scope.Gives field .union site (polymorphic field)
  | unknown (site : Site) : scope.Gives field .unknown site (unhandled field)
  | object (site : Site) : scope.Gives field .object site (scope.objectType site field)
  /-- A reference to no model. -/
  | dangling {site : Site} {reference : String} (hreference : site.node.reference = some reference)
      (hnone : scope.registry.target? reference = none) :
      scope.Gives field .reference site (do
        Traced.reporting (.dangling reference) ()
        byName (scope.typeName reference))
  /-- A reference to a model with a definition. -/
  | named {site target : Site} {reference : String}
      (hreference : site.node.reference = some reference)
      (htarget : scope.registry.target? reference = some target)
      (hdefined : ¬ target.node.isInlined) :
      scope.Gives field .reference site
        (byName (scope.typeNameIn target.node (target.node.id.getD reference)))
  /-- A reference to a model without a definition. -/
  | inlined {site target : Site} {reference : String} {type : Traced TypeExpr}
      (hreference : site.node.reference = some reference)
      (htarget : scope.registry.target? reference = some target)
      (hinlined : target.node.isInlined) (htype : scope.Gives field target.node.shape target type) :
      scope.Gives field .reference site type
  | list {site : Site} {item : Node} {type : Traced TypeExpr}
      (hitems : site.node.items = some (.single item))
      (htype : scope.Gives field item.shape (site.part .item item) type) :
      scope.Gives field .array site (.list <$> type)
  | tuple {site : Site} {nodes : List Node} (hitems : site.node.items = some (.tuple nodes)) :
      scope.Gives field .array site
        (.defining (scope.dependency .tuple field (scope.tupleName field) site)
          (.boxed (.sibling (scope.tupleName field))))
  | untyped {site : Site} (hitems : site.node.items = none) :
      scope.Gives field .array site (unhandled field)
  /-- A map to values that have a type. -/
  | values {site : Site} {type : Traced TypeExpr} (hunknown : site.node.shape ≠ .unknown)
      (hunion : site.node.shape ≠ .union) (htype : scope.Gives field site.node.shape site type) :
      scope.Gives field .mapValue site (.map <$> type)
  /-- A map to values of any kind. -/
  | anyValues {site : Site} (hunknown : site.node.shape = .unknown) :
      scope.Gives field .mapValue site
        (.map <$> if site.node.isUnconstrained then pure .dynamic else unhandled field)
  /-- A map to values of several types. -/
  | unionValues {site : Site} (hunion : site.node.shape = .union) :
      scope.Gives field .mapValue site (.map <$> polymorphic field)

/-! ### Every type has a derivation -/

variable {scope : Scope} {field : String}

theorem gives_referenceType (rule : Rule) {site : Site} {reference : String}
    (hreference : site.node.reference = some reference)
    (hrule : ∀ target, scope.registry.target? reference = some target → target.node.isInlined →
      scope.Gives field target.node.shape target (rule target.node.shape target field)) :
    scope.Gives field .reference site (scope.referenceType rule site field) := by
  simp only [referenceType, hreference, Option.getD_some]
  cases htarget : scope.registry.target? reference with
  | none => exact .dangling hreference htarget
  | some target =>
    by_cases hinlined : target.node.isInlined
    · simp only [hinlined, if_true]
      exact .inlined hreference htarget hinlined (hrule target htarget hinlined)
    · simp only [hinlined, Bool.false_eq_true, if_false]
      exact .named hreference htarget hinlined

theorem gives_arrayType (rule : Rule) {site : Site}
    (hrule : ∀ item, site.node.items = some (.single item) →
      scope.Gives field item.shape (site.part .item item)
        (rule item.shape (site.part .item item) field)) :
    scope.Gives field .array site (scope.arrayType rule site field) := by
  unfold arrayType
  cases hitems : site.node.items with
  | none => exact .untyped hitems
  | some items =>
    cases items with
    | tuple nodes => exact .tuple hitems
    | single item => exact .list hitems (hrule item hitems)

/-- One step: a site has its type if the rule gives theirs to the sites it asks for. -/
theorem gives_mapStep (rule : Rule) {site : Site}
    (htarget : ∀ reference target, site.node.reference = some reference →
      scope.registry.target? reference = some target → target.node.isInlined →
        scope.Gives field target.node.shape target (rule target.node.shape target field))
    (hitem : site.node.shape = .array → ∀ item, site.node.items = some (.single item) →
      scope.Gives field item.shape (site.part .item item)
        (rule item.shape (site.part .item item) field)) :
    scope.Gives field site.node.shape site (scope.mapStep rule site.node.shape site field) := by
  cases hshape : site.node.shape with
  | scalar type => exact .scalar type site
  | union => exact .union site
  | unknown => exact .unknown site
  | object => exact .object site
  | reference =>
    obtain ⟨reference, hreference⟩ := Node.reference_of_shape hshape
    apply gives_referenceType rule hreference
    intro target
    exact htarget reference target hreference
  | array => exact gives_arrayType rule (hitem hshape)
  | mapValue => exact absurd hshape site.node.shape_ne_mapValue

/-- The type of a single value asks for no other site. -/
theorem gives_mapWithin_primitive (fuel : Nat) {site : Site} (hend : site.node.reference = none)
    (hkind : site.node.kind = .primitive) :
    scope.Gives field site.node.shape site
      (scope.mapWithin (fuel + 1) site.node.shape site field) := by
  apply gives_mapStep
  · intro reference target hreference
    rw [hend] at hreference
    cases hreference
  · intro hshape
    rw [(Node.shape_eq_array_iff.mp hshape).2] at hkind
    cases hkind

/-- A chain of `n` steps needs one more for its end, and another one if a single
    value may be inlined there, which is no step of the chain. -/
theorem gives_mapWithin {n fuel : Nat} {site : Site} (hsettles : scope.registry.Settles n site)
    (hfuel : n + 1 ≤ fuel)
    (hroom : ∀ id model, scope.registry.site? id = some model → model.node.kind ≠ .array →
      n + 2 ≤ fuel) :
    scope.Gives field site.node.shape site
      (scope.mapWithin fuel site.node.shape site field) := by
  induction fuel generalizing n site with
  | zero => omega
  | succ fuel ih =>
    -- a step of the chain leaves one step less, and one unit of fuel less
    have hnext : ∀ next, scope.registry.Leads site next →
        scope.Gives field next.node.shape next
          (scope.mapWithin fuel next.node.shape next field) := by
      intro next hleads
      obtain ⟨m, rfl, hm⟩ := hsettles.step hleads
      apply ih hm (by omega)
      intro id model hmodel hkind
      have hle := hroom id model hmodel hkind
      omega
    apply gives_mapStep
    · intro reference target hreference htarget hinlined
      obtain ⟨hend, hprimitive | hlist⟩ := Node.isInlined_iff.mp hinlined
      · obtain ⟨id, hmodel⟩ := Registry.exists_site?_of_target? htarget
        have hle := hroom id target hmodel (by rw [hprimitive]; decide)
        obtain ⟨fuel, rfl⟩ : ∃ k, fuel = k + 1 := ⟨fuel - 1, by omega⟩
        exact gives_mapWithin_primitive fuel hend hprimitive
      · exact hnext target (.list hreference htarget hend hlist)
    · intro _ item hitems
      exact hnext (site.part .item item) (.part (.item hitems))

/-- Where no list reaches itself, the size of the nodes at hand bounds the steps. -/
theorem gives_mapWithin_of_size (hlists : scope.registry.ListsEnd) {fuel : Nat} (field : String)
    {site : Site} (hfuel : scope.registry.size + site.node.size ≤ fuel) :
    scope.Gives field site.node.shape site (scope.mapWithin fuel site.node.shape site field) := by
  have hpos := site.node.size_pos
  have hle := scope.registry.listSize_le_size
  have hsettles := hlists.settles site (n := site.node.size + scope.registry.listSize - 1)
    (by omega)
  refine gives_mapWithin hsettles (by omega) ?_
  intro id model hmodel hkind
  have hroom := Registry.size_add_listSize_le hmodel hkind
  have := model.node.size_pos
  omega

/-- Where no list reaches itself, every field has a type by the rules. -/
theorem gives_mapType (hlists : scope.registry.ListsEnd) (field : String) (site : Site) :
    scope.Gives field site.node.shape site (scope.mapType site.node.shape site field) :=
  gives_mapWithin_of_size hlists field (Nat.le_succ _)

/-- Values that are of a known type and of one only have a type of their own. -/
theorem mapOfType_eq (rule : Rule) {site : Site} (field : String)
    (hunknown : site.node.shape ≠ .unknown) (hunion : site.node.shape ≠ .union) :
    mapOfType rule site field = .map <$> rule site.node.shape site field := by
  unfold mapOfType
  cases hshape : site.node.shape with
  | scalar | reference | array | object | mapValue => rfl
  | unknown => exact absurd hshape hunknown
  | union => exact absurd hshape hunion

/-- One step more is enough for a map to values. -/
theorem gives_mapWithin_mapValue_of_size (hlists : scope.registry.ListsEnd) {fuel : Nat}
    (field : String) {site : Site} (hfuel : scope.registry.size + site.node.size ≤ fuel) :
    scope.Gives field .mapValue site (scope.mapWithin (fuel + 1) .mapValue site field) := by
  simp only [mapWithin, mapStep]
  by_cases hunknown : site.node.shape = .unknown
  · unfold mapOfType
    rw [hunknown]
    exact .anyValues hunknown
  · by_cases hunion : site.node.shape = .union
    · unfold mapOfType
      rw [hunion]
      exact .unionValues hunion
    · rw [mapOfType_eq _ field hunknown hunion]
      exact .values hunknown hunion (gives_mapWithin_of_size hlists field hfuel)

/-- Where no list reaches itself, every map has a type by the rules. -/
theorem gives_mapType_mapValue (hlists : scope.registry.ListsEnd) (field : String) (site : Site) :
    scope.Gives field .mapValue site (scope.mapType .mapValue site field) :=
  gives_mapWithin_mapValue_of_size hlists field (Nat.le_refl _)

/-! ### No site has two types -/

/-- The rules leave no choice. -/
theorem Gives.unique {shape : Shape} {site : Site} {type type' : Traced TypeExpr}
    (h : scope.Gives field shape site type) (h' : scope.Gives field shape site type') :
    type = type' := by
  induction h generalizing type' with
  | scalar | union | unknown | object =>
    cases h'
    rfl
  -- the reference and what it stands for decide which of three rules applies
  | dangling hreference hnone => cases h' <;> simp_all
  | named hreference htarget hdefined => cases h' <;> simp_all
  | inlined hreference htarget hinlined _ ih =>
    cases h' with
    | dangling | named => simp_all
    | inlined hreference' htarget' _ htype' =>
      rw [hreference, Option.some.injEq] at hreference'
      subst hreference'
      rw [htarget, Option.some.injEq] at htarget'
      subst htarget'
      exact ih htype'
  | list hitems _ ih =>
    cases h' with
    | tuple | untyped => simp_all
    | list hitems' htype' =>
      rw [hitems, Option.some.injEq, Items.single.injEq] at hitems'
      subst hitems'
      rw [ih htype']
  | tuple hitems => cases h' <;> simp_all
  | untyped hitems => cases h' <;> simp_all
  | values hunknown hunion _ ih =>
    cases h' with
    | values _ _ htype' => rw [ih htype']
    | anyValues hunknown' => exact absurd hunknown' hunknown
    | unionValues hunion' => exact absurd hunion' hunion
  | anyValues hunknown => cases h' <;> simp_all
  | unionValues hunion => cases h' <;> simp_all

/-- More steps than the sizes of the nodes at hand change nothing. -/
theorem mapWithin_eq_mapType (hlists : scope.registry.ListsEnd) {fuel : Nat} {shape : Shape}
    (field : String) {site : Site} (hshape : shape = site.node.shape ∨ shape = .mapValue)
    (hfuel : scope.mapBudget site ≤ fuel) :
    scope.mapWithin fuel shape site field = scope.mapType shape site field := by
  unfold mapBudget at hfuel
  rcases hshape with rfl | rfl
  · exact (gives_mapWithin_of_size hlists field (by omega)).unique (gives_mapType hlists field site)
  · obtain ⟨fuel, rfl⟩ : ∃ less, fuel = less + 1 := ⟨fuel - 1, by omega⟩
    exact (gives_mapWithin_mapValue_of_size hlists field (by omega)).unique
      (gives_mapType_mapValue hlists field site)

end Scope

end Typewright
