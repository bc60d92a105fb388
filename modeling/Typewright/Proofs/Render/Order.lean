/-
  Typewright/Proofs/Render/Order.lean
  ===================================
  **The order of definitions** — every definition on the side comes after all that
  it needs.

  A name that is taken is finished or open, that is, its definition is still to
  come after what it needs.  Were a dependency to ask for an open name, it would
  either be another schema, and a warning says so, or the schema of the open name
  itself.  The latter does not happen where no list reaches itself: the search goes
  down from the open schemas, and no chain comes back to a place.
-/
import Typewright.Proofs.Render.Emission

namespace Typewright

open Relation (ReflTransGen TransGen)

/-! ### Places below a site -/

/-- A chain from the site gets to the place. -/
def Registry.Below (registry : Registry) (site : Site) (place : Place) : Prop :=
  ∃ last, ReflTransGen registry.Leads site last ∧ last.place = place

namespace Options

variable {options : Options} {registry : Registry}

/-- Every dependency comes after all that it needs, given what is finished
    before. -/
def Ordered (options : Options) (registry : Registry) : List String → List Dependency → Prop
  | _, [] => True
  | finished, d :: rest =>
    (∀ e ∈ (Definition.side d).needs options registry, e.typeName ∈ finished) ∧
      options.Ordered registry (finished ++ [d.typeName]) rest

theorem ordered_append {finished : List String} {before after : List Dependency} :
    options.Ordered registry finished (before ++ after) ↔
      options.Ordered registry finished before ∧
        options.Ordered registry (finished ++ before.map (·.typeName)) after := by
  induction before generalizing finished with
  | nil => simp only [List.nil_append, Ordered, List.map_nil, List.append_nil, true_and]
  | cons d rest ih =>
    simp only [List.cons_append, Ordered, ih, List.map_cons, List.append_assoc, and_assoc,
      List.nil_append]

/-- No open name belongs to a place below the dependencies. -/
def Clear (registry : Registry) (finished : List String) (state : Emission)
    (ds : List Dependency) : Prop :=
  ∀ name place, Keyed.get? name state.seen = some place → name ∉ finished →
    ∀ d ∈ ds, ¬ registry.Below d.site place

theorem Clear.tail {finished : List String} {state : Emission} {d : Dependency}
    {rest : List Dependency} (h : Clear registry finished state (d :: rest)) :
    Clear registry finished state rest :=
  fun name place hseen hopen e he => h name place hseen hopen e (List.mem_cons_of_mem _ he)

section

variable (hhooks : options.hooks = {}) (hwf : registry.WellFormed) (hlists : registry.ListsEnd)
include hhooks hwf hlists

/-- What a dependency needs is below it, and so clear of its own name too. -/
theorem Clear.begin {finished : List String} {state : Emission} {d : Dependency}
    {rest : List Dependency} (h : Clear registry finished state (d :: rest))
    (hroot : registry.Rooted d.site) :
    Clear registry finished (options.begin registry state d)
      ((Definition.side d).needs options registry) := by
  rintro name place hseen hopen e he ⟨last, hpath, rfl⟩
  have hdown : TransGen registry.Leads d.site last :=
    TransGen.trans_left
      (Definition.leads_of_mem_needs hhooks hwf hlists (.side d) he) hpath
  rcases get?_begin_cases hseen with hbefore | ⟨-, hplace⟩
  · exact h name last.place hbefore hopen d List.mem_cons_self
      ⟨last, hdown.to_reflTransGen, rfl⟩
  · exact hlists.place_ne hroot hdown hplace.symm

/-- **Definitions are ordered.**  Without a warning, everything comes after what it
    needs, and whatever was asked for is finished at last. -/
theorem Emits.ordered {ds sources : List Dependency} {state final : Emission}
    (h : options.Emits registry ds state sources final) {finished : List String}
    (hroot : ∀ d ∈ ds, registry.Rooted d.site) (hclear : Clear registry finished state ds)
    (hquiet : ∀ name field owner, .nameTaken name field owner ∉ final.notices) :
    (∀ d ∈ ds, d.typeName ∈ finished ++ sources.map (·.typeName)) ∧
      options.Ordered registry finished sources := by
  induction h generalizing finished with
  | done => exact ⟨fun d hd => (List.not_mem_nil hd).elim, trivial⟩
  | @again d rest _ _ _ hseen _ ih =>
    obtain ⟨hfinished, hordered⟩ :=
      ih (fun e he => hroot e (List.mem_cons_of_mem _ he)) hclear.tail hquiet
    refine ⟨?_, hordered⟩
    intro e he
    rcases List.mem_cons.mp he with rfl | he
    · -- the name is its own: it cannot be open
      by_cases hopen : e.typeName ∈ finished
      · exact List.mem_append_left _ hopen
      · exact (hclear e.typeName _ hseen hopen e List.mem_cons_self ⟨e.site, .refl, rfl⟩).elim
    · exact hfinished e he
  | @clash d _ _ _ _ _ _ _ hrest _ =>
    refine (hquiet d.typeName d.field d.parentName (hrest.mem_notices ?_)).elim
    exact List.mem_append_right _ List.mem_cons_self
  | @fresh d rest inner later state middle _ _ hinner hrest ihinner ihrest =>
    have hdroot := hroot d List.mem_cons_self
    obtain ⟨hneeds, horderedInner⟩ := ihinner
      (fun e he => Definition.rooted_of_mem_needs hhooks hwf hlists (.side d) hdroot he)
      (hclear.begin hhooks hwf hlists hdroot)
      (fun name field owner hmem => hquiet name field owner (hrest.mem_notices hmem))
    have hclearRest : Clear registry (finished ++ inner.map (·.typeName) ++ [d.typeName])
        (middle.define ((Definition.side d).render options registry)) rest := by
      intro name place hseen hopen
      simp only [List.mem_append, List.mem_singleton, not_or] at hopen
      obtain ⟨⟨hold, hin⟩, hname⟩ := hopen
      rcases hinner.get?_cases hseen with hbegun | ⟨e, he, heq, -⟩
      · rw [get?_begin_of_ne hname] at hbegun
        exact hclear.tail name place hbegun hold
      · exact (hin (heq ▸ List.mem_map_of_mem he)).elim
    obtain ⟨hlater, horderedLater⟩ :=
      ihrest (fun e he => hroot e (List.mem_cons_of_mem _ he)) hclearRest hquiet
    simp only [List.map_append, List.map_cons]
    constructor
    · intro e he
      rcases List.mem_cons.mp he with rfl | he
      · simp
      · simpa [List.append_assoc] using hlater e he
    · exact ordered_append.mpr ⟨horderedInner, hneeds, horderedLater⟩

end

end Options

end Typewright
