/-
  Typewright/Proofs/Render/Surroundings.lean
  ==========================================
  **Models and their surroundings** — what the rest of a registry has to do with a
  complete model.

  A run of emission is followed in another registry step by step, since every
  definition of the run is the same there (`Emits.emitWithin_eq`).  So a complete model
  stays the same where two registries agree (`renderComplete_eq_of_agreesOnModel`): on what
  the sites that the model reaches refer to, and on the names of the objects that its
  definitions need on the side.

    * The order of the entries does not matter: the outputs come in the other order,
      and each of them is the same (`generateComplete_perm`).
    * An entry that nothing mentions changes no other model, unless it takes the name
      of an object (`renderComplete_insert`).
-/
import Typewright.Proofs.Render.Moved
import Typewright.Proofs.Render.Outputs

namespace Typewright

open Relation (TransGen)

/-- The two registries agree on the names of all objects among the dependencies. -/
def Registry.SameNames (registry other : Registry) (needed : List Dependency) : Prop :=
  ∀ d ∈ needed, d.kind = .record →
    other.hasModelNamed {} (fieldTypeName d.field) =
      registry.hasModelNamed {} (fieldTypeName d.field)

theorem Registry.AgreesOn.path {registry other : Registry} {inside : Site → Prop}
    (hagree : registry.AgreesOn other inside) {site last : Site} (hsite : inside site)
    (hpath : TransGen registry.Leads site last) : inside last := by
  have hstep : ∀ {site next}, inside site → registry.Leads site next → inside next := by
    intro site next hsite hleads
    cases hleads with
    | part hpart => exact hagree.part hsite hpart
    | list hreference htarget _ _ => exact hagree.target hsite hreference htarget
  induction hpath with
  | single hleads => exact hstep hsite hleads
  | tail _ hleads ih => exact hstep ih hleads

namespace Definition

variable {options : Options} {registry other : Registry} {definition : Definition}

/-- What a definition needs stands for all that its types meet. -/
theorem sameNames_types (hhooks : options.hooks = {}) (hrules : options.rules = {})
    (hnames : registry.SameNames other (definition.needs options registry)) :
    (definition.scope options registry).SameNames other
      (definition.types options registry).inlined := by
  have hscope : (definition.scope options registry).rules = {} := by rw [scope_rules, hrules]
  intro d hd hkind
  obtain ⟨e, he, hsame⟩ := exists_same_needs hhooks hd
  have hnamed := hnames e he (hsame.1.trans hkind)
  rw [hsame.2] at hnamed
  rw [hscope, scope_registry, Scope.typeName_default hscope]
  exact hnamed

end Definition

namespace Options

variable {options : Options} {registry other : Registry} {site : Site}

/-- The registries agree on all that a complete model needs: on a region of sites that
    the model is in, and on the names of the objects that its definitions need.  The
    other registry is no smaller, so chains are followed as far in it. -/
structure AgreesOnModel (options : Options) (registry other : Registry) (inside : Site → Prop)
    (site : Site) : Prop where
  agrees : registry.AgreesOn other inside
  size_le : registry.size ≤ other.size
  reached : inside site
  names : ∀ block ∈ options.blocks registry site,
    registry.SameNames other block.dependencies.inlined

/-! ### Runs of emission -/

section

variable (hhooks : options.hooks = {}) (hwf : registry.WellFormed) (hlists : registry.ListsEnd)
include hhooks hwf hlists

/-- A run is followed in another registry, as far as all of its definitions are the same
    there and there is fuel for its chains. -/
theorem Emits.emitWithin_eq {ds sources : List Dependency} {state final : Emission}
    (h : options.Emits registry ds state sources final) {fuel : Nat}
    (hsettles : ∀ d ∈ ds, ∃ n < fuel, registry.Settles n d.site)
    (hrender : ∀ d ∈ sources,
      (Definition.side d).render options other = (Definition.side d).render options registry) :
    options.emitWithin other fuel ds state = final := by
  induction h generalizing fuel with
  | done => exact emitWithin_nil fuel _
  | again hseen _ ih =>
    obtain ⟨n, hn, -⟩ := hsettles _ List.mem_cons_self
    obtain ⟨fuel, rfl⟩ := Nat.exists_eq_add_one_of_ne_zero (Nat.ne_zero_of_lt hn)
    rw [emitWithin_cons, emitWith_again hseen]
    exact ih (fun e he => hsettles e (List.mem_cons_of_mem _ he)) hrender
  | clash hseen hother _ ih =>
    obtain ⟨n, hn, -⟩ := hsettles _ List.mem_cons_self
    obtain ⟨fuel, rfl⟩ := Nat.exists_eq_add_one_of_ne_zero (Nat.ne_zero_of_lt hn)
    rw [emitWithin_cons, emitWith_clash hseen hother]
    exact ih (fun e he => hsettles e (List.mem_cons_of_mem _ he)) hrender
  | @fresh d rest inner later state middle final hfree hinner hrest ihinner ihrest =>
    obtain ⟨n, hn, hsettled⟩ := hsettles d List.mem_cons_self
    obtain ⟨fuel, rfl⟩ := Nat.exists_eq_add_one_of_ne_zero (Nat.ne_zero_of_lt hn)
    have hd := hrender d (List.mem_append_right _ List.mem_cons_self)
    have hneeds : (Definition.side d).needs options other =
        (Definition.side d).needs options registry := by
      unfold Definition.needs
      rw [hd]
    have hbegin : options.begin other state d = options.begin registry state d := by
      unfold begin
      rw [hd]
    -- what the definition needs is a shorter chain
    have hshorter : ∀ e ∈ (Definition.side d).needs options registry,
        ∃ m < fuel, registry.Settles m e.site := by
      intro e he
      obtain ⟨m, rfl, hm⟩ :=
        hsettled.path (Definition.leads_of_mem_needs hhooks hwf hlists (.side d) he)
      exact ⟨m, by omega, hm⟩
    have hmiddle := ihinner hshorter fun e he => hrender e (List.mem_append_left _ he)
    rw [emitWithin_cons, emitWith_fresh hfree, hneeds, hbegin, hmiddle, hd]
    apply ihrest
    · intro e he
      exact hsettles e (List.mem_cons_of_mem _ he)
    · intro e he
      exact hrender e (List.mem_append_right _ (List.mem_cons_of_mem _ he))

/-! ### Complete models -/

/-- **Complete models stay the same.**  In a registry that agrees on all that a model
    needs, the complete model is the same. -/
theorem renderComplete_eq_of_agreesOnModel (hrules : options.rules = {}) {inside : Site → Prop}
    (hagrees : options.AgreesOnModel registry other inside site) :
    options.renderComplete other site = options.renderComplete registry site := by
  obtain ⟨hagree, hsize, hsite, hnames⟩ := hagrees
  obtain ⟨sources, h⟩ := emits_sides hhooks hwf hlists site
  have hrender : ∀ definition ∈ definitions site sources, inside definition.site →
      definition.render options other = definition.render options registry := by
    intro definition hdefinition hinside
    apply Definition.render_eq hhooks hrules hagree hlists hsize hinside
    apply Definition.sameNames_types hhooks hrules
    apply hnames
    rw [blocks_eq h]
    exact List.mem_map_of_mem hdefinition
  have hmodel : options.renderModel other site = options.renderModel registry site :=
    hrender (.model site) (mem_definitions.mpr (Or.inr rfl)) hsite
  have hsources : ∀ d ∈ sources, inside d.site := by
    refine h.forall_sources ?_ ?_
    · intro d hd e he
      exact hagree.path hd (Definition.leads_of_mem_needs hhooks hwf hlists (.side d) he)
    · intro d hd
      exact hagree.path hsite
        (Definition.leads_of_mem_needs hhooks hwf hlists (.model site) (mem_needs_of_mem_asked hd))
  have hsides : options.emit other (options.asked registry site) (options.start registry site) =
      options.sides registry site := by
    apply h.emitWithin_eq hhooks hwf hlists
    · intro d hd
      exact settles_of_emitBudget hlists hsize _ hd
    · intro d hd
      exact hrender (.side d) (mem_definitions.mpr (Or.inl ⟨d, hd, rfl⟩)) (hsources d hd)
  unfold renderComplete
  rw [hmodel]
  cases hempty : (options.renderModel registry site).isEmpty with
  | true => simp only [hempty, Bool.true_or, if_true]
  | false =>
    have hside : options.sideEmission other site (options.renderModel registry site) =
        options.sideEmission registry site (options.renderModel registry site) := by
      unfold sides asked at hsides
      simp only [hempty, Bool.false_eq_true, if_false] at hsides
      exact hsides
    simp only [hside]

end

/-! ### The order of entries -/

/-- The output of an entry, if it has one. -/
def output? (options : Options) (registry : Registry) (entry : String × Node) : Option Source :=
  let rendered := options.renderComplete registry (.root (.entry entry.1) entry.2)
  if rendered.isEmpty then none else some rendered.toSource

theorem generateComplete_eq_filterMap (options : Options) (registry : Registry) :
    options.generateComplete registry = registry.entries.filterMap (options.output? registry) := by
  unfold generateComplete sources Registry.sites
  induction registry.entries with
  | nil => rfl
  | cons entry rest ih =>
    simp only [List.map_cons, List.filter_cons, List.filterMap_cons, output?]
    cases hempty : (options.renderComplete registry (.root (.entry entry.1) entry.2)).isEmpty with
    | true =>
      simp only [Bool.not_true, Bool.false_eq_true, if_false, if_true]
      exact ih
    | false =>
      simp only [Bool.not_false, Bool.false_eq_true, if_false, if_true, List.map_cons]
      exact congrArg _ ih

/-- **The order of entries does not matter.**  Where the same entries stand in another
    order, every model is the same, with all that it reports, and the outputs are the
    same ones in the order of the entries. -/
theorem generateComplete_perm (options : Options) {registry other : Registry}
    (hhooks : options.hooks = {}) (hrules : options.rules = {}) (hwf : registry.WellFormed)
    (hlists : registry.ListsEnd) (hperm : registry.entries.Perm other.entries) :
    (∀ site ∈ registry.sites,
      options.renderComplete other site = options.renderComplete registry site) ∧
    options.generateComplete registry = registry.entries.filterMap (options.output? registry) ∧
    options.generateComplete other = other.entries.filterMap (options.output? registry) := by
  have hmodels : registry.models.Perm other.models := hperm.map _
  have hnamed : ∀ name, other.hasModelNamed {} name = registry.hasModelNamed {} name := by
    intro name
    unfold Registry.hasModelNamed
    simp only [NameRules.modelName_default]
    exact hmodels.any_eq.symm
  have hsame : ∀ site,
      options.renderComplete other site = options.renderComplete registry site := by
    intro site
    apply renderComplete_eq_of_agreesOnModel hhooks hwf hlists hrules
    exact {
      agrees := Registry.agreesOn_of_perm hwf.distinct hperm
      size_le := Nat.le_of_eq (Registry.size_perm hperm)
      reached := trivial
      names := fun _ _ d _ _ => hnamed (fieldTypeName d.field) }
  refine ⟨fun site _ => hsame site, generateComplete_eq_filterMap options registry, ?_⟩
  rw [generateComplete_eq_filterMap]
  apply List.filterMap_congr
  intro entry _
  unfold output?
  simp only [hsame]

theorem generateComplete_perm_people :
    let swapped : Registry := ⟨people.entries.reverse⟩
    people.WellFormed ∧ people.ListsEnd ∧ people.entries.Perm swapped.entries ∧
      (∀ site ∈ people.sites,
        ({} : Options).renderComplete swapped site = ({} : Options).renderComplete people site) ∧
      ({} : Options).generateComplete people =
        people.entries.filterMap (({} : Options).output? people) ∧
      ({} : Options).generateComplete swapped =
        swapped.entries.filterMap (({} : Options).output? people) := by
  intro swapped
  have hwf : people.WellFormed := by decide +kernel
  have hlists : people.ListsEnd := by decide +kernel
  have hperm : people.entries.Perm swapped.entries := people.entries.reverse_perm.symm
  exact ⟨hwf, hlists, hperm, generateComplete_perm {} rfl rfl hwf hlists hperm⟩

/-! ### One more entry -/

/-- **An entry that nothing mentions changes nothing else.**  With one more entry, whose
    identifier no node of the registry has or refers to, a model stays the same, with all
    that it reports; unless the new model has the name that the field of an object has,
    an object that a definition of the model needs on the side. -/
theorem renderComplete_insert (options : Options) {before after : List (String × Node)}
    {id : String} {model : Node} {site : Site} (hhooks : options.hooks = {})
    (hrules : options.rules = {}) (hwf : (⟨before ++ after⟩ : Registry).WellFormed)
    (hlists : (⟨before ++ after⟩ : Registry).ListsEnd)
    (haliases : (⟨before ++ after⟩ : Registry).AliasesEnd)
    (hunmentioned : (⟨before ++ after⟩ : Registry).Unmentioned id)
    (hsite : site ∈ (⟨before ++ after⟩ : Registry).sites)
    (hnames : ∀ block ∈ options.blocks ⟨before ++ after⟩ site,
      ∀ d ∈ block.dependencies.inlined, d.kind = .record →
        options.rules.modelName ⟨before ++ (id, model) :: after⟩ model ≠ fieldTypeName d.field) :
    options.renderComplete ⟨before ++ (id, model) :: after⟩ site =
      options.renderComplete ⟨before ++ after⟩ site := by
  obtain ⟨key, hmodel⟩ := hwf.mem_sites_iff.mp hsite
  have hsame : ∀ block ∈ options.blocks ⟨before ++ after⟩ site,
      (⟨before ++ after⟩ : Registry).SameNames ⟨before ++ (id, model) :: after⟩
        block.dependencies.inlined := by
    intro block hblock d hd hkind
    have hne := hnames block hblock d hd hkind
    rw [hrules, NameRules.modelName_default] at hne
    unfold Registry.hasModelNamed Registry.models
    simp only [NameRules.modelName_default, List.map_append, List.map_cons, List.any_append,
      List.any_cons, beq_eq_false_iff_ne.mpr hne, Bool.false_or]
  apply renderComplete_eq_of_agreesOnModel hhooks hwf hlists hrules
  exact {
    agrees := Registry.agreesOn_insert haliases hunmentioned
    size_le := Registry.size_le_insert
    reached := Or.inl (Registry.rooted_of_site? hmodel)
    names := hsame }

/-- A kennel holds kennels, without end. -/
def kennel : Node where
  id := some "Kennel"
  type := some (.single "array")
  items := some (.single (.refer "Kennel"))

/-- People need not care about kennels: no object of theirs is in a field of that name. -/
theorem renderComplete_insert_people :
    let site := Site.root (.entry "Person") person
    let joined : Registry := ⟨("Person", person) :: ("Kennel", kennel) :: people.entries.tail⟩
    people.Unmentioned "Kennel" ∧ ¬ joined.ListsEnd ∧
      ((({} : Options).blocks people site).flatMap (·.dependencies.inlined)).map (·.field) =
        ["at", "home"] ∧
      ({} : Options).renderComplete joined site = ({} : Options).renderComplete people site := by
  intro site joined
  have hunmentioned : people.Unmentioned "Kennel" := by decide +kernel
  have hfields : ((({} : Options).blocks people site).flatMap (·.dependencies.inlined)).map
      (·.field) = ["at", "home"] := by decide +kernel
  have hnames : ∀ field ∈ ["at", "home"],
      ({} : Options).rules.modelName joined kennel ≠ fieldTypeName field := by decide +kernel
  refine ⟨hunmentioned, by decide +kernel, hfields, ?_⟩
  apply @renderComplete_insert {} [("Person", person)] people.entries.tail "Kennel" kennel site
    rfl rfl (by decide +kernel) (by decide +kernel) (by decide +kernel) hunmentioned
    List.mem_cons_self
  intro block hblock d hd _
  apply hnames
  rw [← hfields]
  exact List.mem_map_of_mem (List.mem_flatMap.mpr ⟨block, hblock, hd⟩)

end Options

end Typewright
