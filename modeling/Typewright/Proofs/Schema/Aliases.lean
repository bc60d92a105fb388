/-
  Typewright/Proofs/Schema/Aliases.lean
  =====================================
  **Where a reference leads** — the end of its chain, or a circle.

  A reference stands for a model, and that model may refer to another one.  The search
  for the end of this chain takes no more steps than there are models.  It needs less: a
  chain that ends is shorter, since it passes no model twice (`target?_settles`).

  A chain without an end runs into a circle, and need not start on it.  The search then
  stops at a model of the circle.  Such a model still refers to another one, so it is
  mentioned by its name, and no other type is asked for.
-/
import Typewright.Proofs.Schema.Decided
import Typewright.Proofs.Schema.Shape

namespace Typewright

open Relation (ReflTransGen TransGen)

namespace Registry

variable {registry : Registry}

/-! ### Ends of chains -/

/-- The last node of a chain: it refers to nothing, or to no model. -/
def IsLast (registry : Registry) (site : Site) : Prop :=
  ∀ reference, site.node.reference = some reference → ¬ registry.contains reference

/-- The chain that starts with the site comes to a model that refers to itself, be it
    over others. -/
def RunsInCircle (registry : Registry) (first : Site) : Prop :=
  ∃ site, ReflTransGen registry.Refers first site ∧ TransGen registry.Refers site site

theorem isLast_iff {site : Site} :
    registry.IsLast site ↔ site.node.reference.bind registry.site? = none := by
  unfold IsLast
  rw [Option.bind_eq_none_iff]
  apply forall₂_congr
  intro reference _
  constructor
  · intro hnone
    cases hsite : registry.site? reference with
    | none => rfl
    | some model => exact absurd (contains_of_site? hsite) hnone
  · intro hnone hcontains
    obtain ⟨model, hmodel⟩ := exists_site?_of_contains hcontains
    rw [hnone] at hmodel
    cases hmodel

theorem Refers.unique {site next other : Site} (h : registry.Refers site next)
    (h' : registry.Refers site other) : next = other := by
  have heq := h.bind_eq
  rw [h'.bind_eq] at heq
  exact (Option.some.inj heq).symm

theorem rightUnique_refers (registry : Registry) : Relator.RightUnique registry.Refers :=
  fun _ _ _ h h' => h.unique h'

theorem IsLast.not_refers {site next : Site} (h : registry.IsLast site) :
    ¬ registry.Refers site next := by
  intro hnext
  have hbind := hnext.bind_eq
  rw [isLast_iff.mp h] at hbind
  cases hbind

/-- Behind the last node of a chain there is none. -/
theorem IsLast.eq_of_reach {site other : Site} (h : registry.IsLast site)
    (hpath : ReflTransGen registry.Refers site other) : other = site := by
  rcases ReflTransGen.cases_head hpath with heq | ⟨next, hnext, -⟩
  · exact heq.symm
  · exact absurd hnext h.not_refers

/-- A chain has one last node. -/
theorem IsLast.unique {first site other : Site} (h : registry.IsLast site)
    (h' : registry.IsLast other) (hsite : ReflTransGen registry.Refers first site)
    (hother : ReflTransGen registry.Refers first other) : other = site := by
  rcases ReflTransGen.total_of_right_unique registry.rightUnique_refers hsite hother with
    hpath | hpath
  · exact h.eq_of_reach hpath
  · exact (h'.eq_of_reach hpath).symm

/-- From every model behind a circle, the circle leads back. -/
theorem reach_back {site other : Site} (hcircle : TransGen registry.Refers site site)
    (hpath : ReflTransGen registry.Refers site other) : ReflTransGen registry.Refers other site := by
  induction hpath with
  | refl => exact .refl
  | tail _ hstep ih =>
    -- The way back starts with a step, and there is only the one that was taken.
    obtain ⟨next, hnext, hback⟩ := TransGen.head'_iff.mp (TransGen.trans_right ih hcircle)
    rwa [hnext.unique hstep] at hback

/-- A circle that a chain runs into can be reached from everywhere on the chain. -/
theorem reach_circle {first site other : Site}
    (hsite : ReflTransGen registry.Refers first site)
    (hother : ReflTransGen registry.Refers first other)
    (hcircle : TransGen registry.Refers other other) :
    ReflTransGen registry.Refers site other := by
  rcases ReflTransGen.total_of_right_unique registry.rightUnique_refers hsite hother with
    hpath | hpath
  · exact hpath
  · exact reach_back hcircle hpath

theorem reach_follow (registry : Registry) (fuel : Nat) (site : Site) :
    ReflTransGen registry.Refers site (registry.follow fuel site) := by
  induction fuel generalizing site with
  | zero => exact .refl
  | succ fuel ih =>
    simp only [follow]
    split
    · next next hnext =>
      obtain ⟨reference, hreference, hsite⟩ := Option.bind_eq_some_iff.mp hnext
      exact .head ⟨reference, hreference, hsite⟩ (ih next)
    · exact .refl

/-- Where no model refers to itself, no chain runs into a circle. -/
theorem AliasesEnd.not_runsInCircle (h : registry.AliasesEnd) (first : Site) :
    ¬ registry.RunsInCircle first := by
  rintro ⟨site, -, hcircle⟩
  obtain ⟨_, -, reference, -, hsite⟩ := TransGen.tail'_iff.mp hcircle
  exact h reference site hsite hcircle

/-! ### Where a search stops -/

/-- A chain that runs into no circle has its last node within fewer steps than there are
    models, and more steps lead no further. -/
theorem exists_last {id : String} {first : Site} (hfirst : registry.site? id = some first)
    (hends : ¬ registry.RunsInCircle first) :
    ∃ steps < registry.length, registry.IsLast (registry.follow steps first) ∧
      ∀ bound ≥ steps, registry.follow bound first = registry.follow steps first := by
  rcases ends_or_circles hfirst with ⟨steps, hlt, hend⟩ | hcircle
  · refine ⟨steps, hlt, isLast_iff.mpr hend, ?_⟩
    intro bound hbound
    rw [← Nat.add_sub_cancel' hbound, follow_add hend]
  · exact absurd ⟨_, registry.reach_follow _ first, hcircle⟩ hends

/-- A chain that runs into a circle has no last node. -/
theorem RunsInCircle.not_isLast {first last : Site} (h : registry.RunsInCircle first)
    (hlast : ReflTransGen registry.Refers first last) : ¬ registry.IsLast last := by
  intro hend
  obtain ⟨site, hsite, hcircle⟩ := h
  obtain rfl := hend.eq_of_reach (reach_circle hlast hsite hcircle)
  obtain ⟨next, hnext, -⟩ := TransGen.head'_iff.mp hcircle
  exact hend.not_refers hnext

/-- With as many steps as there are models, the search is in the circle. -/
theorem RunsInCircle.circles_follow {id : String} {first : Site}
    (h : registry.RunsInCircle first) (hfirst : registry.site? id = some first) :
    TransGen registry.Refers (registry.follow registry.length first)
      (registry.follow registry.length first) := by
  rcases ends_or_circles hfirst with ⟨steps, -, hend⟩ | hcircle
  · exact absurd (isLast_iff.mpr hend) (h.not_isLast (registry.reach_follow steps first))
  · exact hcircle

end Registry

/-! ### References in fields -/

theorem Scope.mapStep_reference {scope : Scope} {site target : Site} {reference : String}
    (hreference : site.node.reference = some reference)
    (htarget : scope.registry.target? reference = some target) (rule : Scope.Rule)
    (field : String) :
    scope.mapStep rule site.node.shape site field =
      if target.node.isInlined then rule target.node.shape target field
      else Scope.byName (scope.typeNameIn target.node (target.node.id.getD reference)) := by
  have hshape : site.node.shape = .reference := Node.shape_of_reference (by simp [hreference])
  rw [hshape]
  simp only [mapStep, referenceType, hreference, Option.getD_some, htarget]

/-- **Where a reference leads.**  The chain of a reference to a model has one last node
    if it runs into no circle, and the search is there after fewer steps than there are
    models.  If it runs into a circle, the search stops in this circle, at a model that
    refers to another one.  A field with the reference then gets the name of that model,
    whatever the rule for the types of other sites says. -/
theorem Registry.target?_settles (registry : Registry) {reference : String}
    (hmodel : registry.contains reference) :
    ∃ first target, registry.site? reference = some first ∧
      registry.target? reference = some target ∧
      ReflTransGen registry.Refers first target ∧
      (¬ registry.RunsInCircle first →
        registry.IsLast target ∧
        (∀ last, ReflTransGen registry.Refers first last → registry.IsLast last →
          last = target) ∧
        ∃ steps < registry.length, ∀ bound ≥ steps, registry.follow bound first = target) ∧
      (registry.RunsInCircle first →
        TransGen registry.Refers target target ∧
        (∀ site, ReflTransGen registry.Refers first site → TransGen registry.Refers site site →
          ReflTransGen registry.Refers target site) ∧
        target.node.reference.isSome ∧
        ∀ (scope : Scope) (site : Site) (rule : Scope.Rule) (field : String),
          scope.registry = registry → site.node.reference = some reference →
          scope.mapStep rule site.node.shape site field =
            Scope.byName (scope.typeNameIn target.node (target.node.id.getD reference))) := by
  obtain ⟨first, hfirst⟩ := exists_site?_of_contains hmodel
  have htarget : registry.target? reference = some (registry.follow registry.length first) := by
    rw [target?, hfirst, Option.map_some]
  have hreach := registry.reach_follow registry.length first
  refine ⟨first, registry.follow registry.length first, hfirst, htarget, hreach, ?_, ?_⟩
  · intro hends
    obtain ⟨steps, hlt, hlast, hstays⟩ := exists_last hfirst hends
    rw [hstays registry.length (Nat.le_of_lt hlt)] at hreach ⊢
    exact ⟨hlast, fun last hpath hlast' => hlast.unique hlast' hreach hpath, steps, hlt, hstays⟩
  · intro hruns
    have hcircle := hruns.circles_follow hfirst
    have hrefers : (registry.follow registry.length first).node.reference.isSome := by
      obtain ⟨next, ⟨name, hname, -⟩, -⟩ := TransGen.head'_iff.mp hcircle
      rw [hname, Option.isSome_some]
    refine ⟨hcircle, fun site => reach_circle hreach, hrefers, ?_⟩
    intro scope site rule field hscope hreference
    rw [← hscope] at htarget
    rw [Scope.mapStep_reference hreference htarget, ← hscope, if_neg]
    rw [Node.isInlined_iff, hscope]
    rintro ⟨hnone, -⟩
    rw [hnone] at hrefers
    cases hrefers

namespace Registry

/-- A chain over all models, the last one of which is a text. -/
def ladder : Registry :=
  ⟨[("Top", .refer "Middle"), ("Middle", .refer "Bottom"),
    ("Bottom", { id := some "Bottom", type := some (.single "string") })]⟩

/-- A chain into a circle of two models, from outside. -/
def lasso : Registry :=
  ⟨[("Rope", .refer "Loop"), ("Loop", { id := some "Loop", reference := some "Knot" }),
    ("Knot", { id := some "Knot", reference := some "Loop" })]⟩

/-- The search passes all models of the ladder, and goes round in the lasso. -/
theorem target?_settles_ladder_lasso :
    (∃ bottom, ladder.target? "Top" = some bottom ∧ bottom.node.id = some "Bottom" ∧
      ladder.IsLast bottom) ∧
    ∃ loop, lasso.target? "Rope" = some loop ∧ loop.node.id = some "Loop" ∧
      TransGen lasso.Refers loop loop ∧
      ∀ (scope : Scope) (rule : Scope.Rule), scope.registry = lasso →
        scope.mapStep rule .reference (Site.root (.loose 0) (.refer "Rope")) "knots" =
          Scope.byName (scope.typeNameIn loop.node "Loop") := by
  constructor
  · obtain ⟨first, bottom, -, hbottom, -, hends, -⟩ := target?_settles ladder
      (show ladder.contains "Top" by decide +kernel)
    have haliases : ladder.AliasesEnd := by decide +kernel
    have hid : (ladder.target? "Top").bind (·.node.id) = some "Bottom" := by decide +kernel
    rw [hbottom] at hid
    exact ⟨bottom, hbottom, hid, (hends (haliases.not_runsInCircle first)).1⟩
  · obtain ⟨first, loop, hfirst, hloop, -, -, hruns⟩ := target?_settles lasso
      (show lasso.contains "Rope" by decide +kernel)
    have hcircle : lasso.RunsInCircle first := by
      cases hfirst
      exact ⟨_, .single ⟨"Loop", rfl, rfl⟩, .tail (.single ⟨"Knot", rfl, rfl⟩) ⟨"Loop", rfl, rfl⟩⟩
    have hid : (lasso.target? "Rope").bind (·.node.id) = some "Loop" := by decide +kernel
    rw [hloop] at hid
    obtain ⟨hround, -, -, hnamed⟩ := hruns hcircle
    refine ⟨loop, hloop, hid, hround, ?_⟩
    intro scope rule hscope
    have hname := hnamed scope (Site.root (.loose 0) (.refer "Rope")) rule "knots" hscope rfl
    have hid' : loop.node.id = some "Loop" := hid
    rw [hid'] at hname
    exact hname

end Registry

end Typewright
