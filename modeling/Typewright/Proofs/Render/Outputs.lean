/-
  Typewright/Proofs/Render/Outputs.lean
  =====================================
  **All outputs together** — which type names a package defines twice.

  The outputs are modules of one package, whose root exports the types of them all.
  Each output defines a name once.  Over all outputs a name may have several
  definitions: what a model needs on the side is named while that model alone is
  rendered.

  A name on the side is put together from that of the type it belongs to and that of
  the field, or it is that of the field alone.  A name of the second form is never
  that of a model.  So what is left are names on the side of two models, and names
  put together that happen to be that of a model (`nodup_definedNames_iff`).
-/
import Mathlib.Data.List.Nodup
import Typewright.Proofs.Render.Resolution

namespace Typewright

/-! ### Names of two forms -/

/-- The name of the type of a field, under the default rules. -/
def fieldTypeName (field : String) : String := identifier Text.pascalCase isReservedWord field

/-- The name is put together from that of the owner and that of the field. -/
def Dependency.IsPrefixed (d : Dependency) : Prop :=
  d.typeName = d.parentName ++ fieldTypeName d.field

namespace Scope

variable {scope : Scope}

theorem typeName_default (hrules : scope.rules = {}) (field : String) :
    scope.typeName field = fieldTypeName field := by
  simp only [typeName, typeNameIn, hrules, NameRules.context, NameContext.typeName, fieldTypeName]

theorem sideName_cases (hrules : scope.rules = {}) (kind : DependencyKind) (field : String) :
    scope.sideName kind field = scope.name ++ fieldTypeName field ∨
      kind = .record ∧ scope.sideName kind field = fieldTypeName field ∧
        (scope.sideName kind field = "" ∨ ¬ scope.isModelName (scope.sideName kind field)) := by
  unfold sideName
  cases kind with
  | tuple =>
    left
    simp only [tupleName, typeName_default hrules]
  | record =>
    simp only [recordName, typeName_default hrules]
    by_cases hempty : fieldTypeName field = ""
    · simp [hempty]
    · rw [if_neg hempty]
      split
      · exact Or.inl rfl
      · next hfree =>
        simp only [not_or] at hfree
        exact Or.inr ⟨trivial, rfl, Or.inr hfree.2.2⟩

end Scope

namespace Options

variable {options : Options} {registry : Registry} {site other : Site}

/-! ### Outputs -/

/-- The models that have an output. -/
def outputs (options : Options) (registry : Registry) : List Site :=
  registry.sites.filter fun site => !(options.renderModel registry site).isEmpty

/-- The names of all types that the outputs define, an output after the other. -/
def definedNames (options : Options) (registry : Registry) : List String :=
  (options.outputs registry).flatMap fun site => (options.blocks registry site).map (·.name)

theorem mem_outputs_iff :
    site ∈ options.outputs registry ↔
      site ∈ registry.sites ∧ (options.renderModel registry site).name ≠ "" := by
  simp [outputs, Rendered.isEmpty]

theorem generateComplete_eq (options : Options) (registry : Registry) :
    options.generateComplete registry =
      (options.outputs registry).map fun site =>
        (options.renderComplete registry site).toSource := by
  have hempty : ∀ site, (options.renderComplete registry site).isEmpty =
      (options.renderModel registry site).isEmpty := by
    intro site
    unfold Rendered.isEmpty
    rw [name_renderComplete]
  unfold generateComplete sources outputs
  rw [List.filter_map, List.map_map]
  simp only [Function.comp_def, hempty]

theorem names_generateComplete (options : Options) (registry : Registry) :
    (options.generateComplete registry).map (·.name) =
      (options.outputs registry).map fun site => (options.renderModel registry site).name := by
  rw [generateComplete_eq, List.map_map]
  apply List.map_congr_left
  intro site _
  exact name_renderComplete options registry site

/-- The text of an output is that of its definitions. -/
theorem texts_generateComplete (options : Options) (registry : Registry) :
    (options.generateComplete registry).map (·.text) =
      (options.outputs registry).map fun site =>
        "\n\n".intercalate ((options.blocks registry site).map (·.text)) := by
  rw [generateComplete_eq, List.map_map]
  apply List.map_congr_left
  intro site _
  exact (renderComplete_eq options registry site).1

theorem isRendered_of_name_ne_empty (hname : (options.renderModel registry site).name ≠ "") :
    site.node.kind.IsRendered := by
  constructor
  · intro hkind
    apply hname
    simp only [renderModel, hkind]
  · intro hkind
    apply hname
    simp only [renderModel, hkind]

/-- The name of an output is that of a model. -/
theorem isModelName_of_mem_outputs {scope : Scope} (hregistry : scope.registry = registry)
    (hrules : scope.rules = options.rules) (hsite : site ∈ options.outputs registry) :
    scope.isModelName (options.renderModel registry site).name := by
  obtain ⟨hmem, hname⟩ := mem_outputs_iff.mp hsite
  obtain ⟨⟨id, node⟩, hentry, rfl⟩ := List.mem_map.mp hmem
  unfold Scope.isModelName
  rw [List.any_eq_true, hregistry, hrules]
  refine ⟨node, List.mem_map_of_mem (f := (·.2)) hentry, ?_⟩
  rw [name_renderModel options registry _ (isRendered_of_name_ne_empty hname)]
  simp [Site.root]

/-! ### Names on the side -/

/-- The name of what is needed on the side, in the form it has: put together, or
    that of the field, and then of no output. -/
def NamedAside (options : Options) (registry : Registry) (d : Dependency) : Prop :=
  d.IsPrefixed ∨
    d.kind = .record ∧ d.typeName = fieldTypeName d.field ∧
      ∀ site ∈ options.outputs registry, d.typeName ≠ (options.renderModel registry site).name

section

variable (hhooks : options.hooks = {}) (hrules : options.rules = {}) (hwf : registry.WellFormed)
  (hlists : registry.ListsEnd)
include hhooks hrules hwf hlists

theorem namedAside_of_mem_needs (definition : Definition) {d : Dependency}
    (hd : d ∈ definition.needs options registry) : options.NamedAside registry d := by
  have heq := (Definition.of_mem_types hlists hhooks hwf
    (Definition.mem_types_of_mem_needs hhooks hd)).1
  have hname : d.typeName = (definition.scope options registry).sideName d.kind d.field := by
    rw [heq]
    rfl
  have howner : d.parentName = (definition.scope options registry).name := by
    rw [heq]
    rfl
  have hscope : (definition.scope options registry).rules = {} := by
    rw [Definition.scope_rules, hrules]
  unfold NamedAside Dependency.IsPrefixed
  rw [hname, howner]
  rcases Scope.sideName_cases hscope d.kind d.field with hprefixed | ⟨hkind, hplain, hfree⟩
  · exact Or.inl hprefixed
  · refine Or.inr ⟨hkind, hplain, ?_⟩
    intro site hsite heq
    rw [heq] at hfree
    rcases hfree with hempty | hfree
    · exact (mem_outputs_iff.mp hsite).2 hempty
    · exact hfree (isModelName_of_mem_outputs (Definition.scope_registry _)
        (Definition.scope_rules _) hsite)

theorem namedAside_of_emits {sources : List Dependency}
    (h : options.Emits registry (options.asked registry site) (options.start registry site) sources
      (options.sides registry site)) :
    ∀ d ∈ sources, options.NamedAside registry d := by
  refine h.forall_sources ?_ ?_
  · intro d _ e he
    exact namedAside_of_mem_needs hhooks hrules hwf hlists (.side d) he
  · intro d hd
    exact namedAside_of_mem_needs hhooks hrules hwf hlists (.model site) (mem_needs_of_mem_asked hd)

end

/-! ### Names that are defined once -/

/-- Two outputs of other models define no name in common, given what each model has
    on the side. -/
theorem disjoint_names_iff {sides others : List Dependency}
    (h : options.Emits registry (options.asked registry site) (options.start registry site) sides
      (options.sides registry site))
    (hother : options.Emits registry (options.asked registry other) (options.start registry other)
      others (options.sides registry other))
    (hnames : (options.renderModel registry site).name ≠ (options.renderModel registry other).name) :
    List.Disjoint ((options.blocks registry site).map (·.name))
        ((options.blocks registry other).map (·.name)) ↔
      (∀ d ∈ sides, ∀ e ∈ others, d.typeName ≠ e.typeName) ∧
        (∀ d ∈ sides, d.typeName ≠ (options.renderModel registry other).name) ∧
        ∀ e ∈ others, e.typeName ≠ (options.renderModel registry site).name := by
  rw [names_blocks h, names_blocks hother]
  simp only [List.disjoint_append_left, List.disjoint_append_right, List.disjoint_singleton,
    List.singleton_disjoint, List.mem_append, List.mem_map, List.mem_singleton, not_or, not_exists,
    not_and]
  constructor
  · rintro ⟨⟨hsides, hsecond⟩, hfirst, -⟩
    refine ⟨?_, hfirst, hsecond⟩
    intro d hd e he heq
    exact hsides (List.mem_map_of_mem hd) (heq ▸ List.mem_map_of_mem he)
  · rintro ⟨hsides, hfirst, hsecond⟩
    refine ⟨⟨?_, hsecond⟩, hfirst, hnames.symm⟩
    intro name hname hmem
    obtain ⟨d, hd, rfl⟩ := List.mem_map.mp hname
    obtain ⟨e, he, heq⟩ := List.mem_map.mp hmem
    exact hsides d hd e he heq.symm

theorem nodup_outputs (hwf : registry.WellFormed) : (options.outputs registry).Nodup := by
  refine List.Nodup.filter _ ?_
  have hids : (registry.sites.map fun site => site.node.id) = registry.ids.map some := by
    unfold Registry.sites Registry.ids
    rw [List.map_map, List.map_map]
    exact List.map_congr_left fun entry hentry => hwf.keyed entry hentry
  apply List.Nodup.of_map fun site => site.node.id
  rw [hids]
  exact hwf.distinct.map fun _ _ h => Option.some.inj h

/-- **Names defined once.**  Every output defines a name once.  All of them together do
    just if no two have a name on the side in common, and no name that is put
    together is that of another model. -/
theorem nodup_definedNames_iff (options : Options) (registry : Registry)
    (hhooks : options.hooks = {}) (hrules : options.rules = {}) (hwf : registry.WellFormed)
    (hlists : registry.ListsEnd)
    (hnames : ((options.generateComplete registry).map (·.name)).Nodup) :
    (options.generateComplete registry).map (·.text) =
        (options.outputs registry).map (fun site =>
          "\n\n".intercalate ((options.blocks registry site).map (·.text))) ∧
    ∃ sides : Site → List Dependency,
      (∀ site, options.Emits registry (options.asked registry site) (options.start registry site)
        (sides site) (options.sides registry site)) ∧
      (∀ site ∈ options.outputs registry, ((options.blocks registry site).map (·.name)).Nodup) ∧
      (∀ site, ∀ d ∈ sides site, options.NamedAside registry d) ∧
      ((options.definedNames registry).Nodup ↔
        ∀ site ∈ options.outputs registry, ∀ other ∈ options.outputs registry, site ≠ other →
          ∀ d ∈ sides site, (∀ e ∈ sides other, d.typeName ≠ e.typeName) ∧
            (d.IsPrefixed → d.typeName ≠ (options.renderModel registry other).name)) := by
  obtain ⟨sides, hsides⟩ := Classical.skolem.mp fun site => emits_sides hhooks hwf hlists site
  have haside : ∀ site, ∀ d ∈ sides site, options.NamedAside registry d := fun site =>
    namedAside_of_emits hhooks hrules hwf hlists (hsides site)
  have hown : ∀ site ∈ options.outputs registry,
      ((options.blocks registry site).map (·.name)).Nodup := fun site _ =>
    nodup_names_blocks (hsides site)
  -- a name that is that of the field alone cannot be that of an output
  have hmodel : ∀ site, ∀ other ∈ options.outputs registry, ∀ d ∈ sides site,
      (d.IsPrefixed → d.typeName ≠ (options.renderModel registry other).name) →
        d.typeName ≠ (options.renderModel registry other).name := by
    intro site other hother d hd hprefixed
    rcases haside site d hd with h | ⟨-, -, hplain⟩
    · exact hprefixed h
    · exact hplain other hother
  have hdistinct : ∀ site ∈ options.outputs registry, ∀ other ∈ options.outputs registry,
      site ≠ other →
        (options.renderModel registry site).name ≠ (options.renderModel registry other).name := by
    intro site hsite other hother hne heq
    rw [names_generateComplete] at hnames
    exact hne (List.inj_on_of_nodup_map hnames hsite hother heq)
  refine ⟨texts_generateComplete options registry, sides, hsides, hown, haside, ?_⟩
  unfold definedNames
  rw [List.nodup_flatMap]
  constructor
  · rintro ⟨-, hpairs⟩ site hsite other hother hne d hd
    have hsymm : Std.Symm (Function.onFun List.Disjoint fun site =>
        (options.blocks registry site).map (·.name)) := ⟨fun _ _ h => List.disjoint_symm h⟩
    have hdisjoint := hpairs.forall hsite hother hne
    obtain ⟨hcommon, hfirst, -⟩ := (disjoint_names_iff (hsides site) (hsides other)
      (hdistinct site hsite other hother hne)).mp hdisjoint
    exact ⟨hcommon d hd, fun _ => hfirst d hd⟩
  · intro hfree
    refine ⟨hown, (nodup_outputs hwf).pairwise_of_forall_ne ?_⟩
    intro site hsite other hother hne
    refine (disjoint_names_iff (hsides site) (hsides other)
      (hdistinct site hsite other hother hne)).mpr ⟨?_, ?_, ?_⟩
    · intro d hd
      exact (hfree site hsite other hother hne d hd).1
    · intro d hd
      exact hmodel site other hother d hd (hfree site hsite other hother hne d hd).2
    · intro e he
      exact hmodel other site hsite e he (hfree other hother site hsite (Ne.symm hne) e he).2

def order : Node where
  id := some "Order"
  type := some (.single "object")
  properties := some [("details", {
    type := some (.single "object")
    properties := some [("count", { type := some (.single "integer") })] })]

def invoice : Node where
  id := some "Invoice"
  type := some (.single "object")
  properties := some [("details", {
    type := some (.single "object")
    properties := some [("note", { type := some (.single "string") })] })]

def sales : Registry := ⟨[("Order", order), ("Invoice", invoice)]⟩

theorem nodup_definedNames_iff_sales :
    sales.WellFormed ∧ sales.ListsEnd ∧
      ((({} : Options).generateComplete sales).map (·.name)).Nodup ∧
      (({} : Options).generateComplete sales).map (·.text) =
        (({} : Options).outputs sales).map (fun site =>
          "\n\n".intercalate ((({} : Options).blocks sales site).map (·.text))) ∧
      ∃ sides : Site → List Dependency,
        (∀ site, ({} : Options).Emits sales (({} : Options).asked sales site)
          (({} : Options).start sales site) (sides site) (({} : Options).sides sales site)) ∧
        (∀ site ∈ ({} : Options).outputs sales,
          ((({} : Options).blocks sales site).map (·.name)).Nodup) ∧
        (∀ site, ∀ d ∈ sides site, ({} : Options).NamedAside sales d) ∧
        ((({} : Options).definedNames sales).Nodup ↔
          ∀ site ∈ ({} : Options).outputs sales, ∀ other ∈ ({} : Options).outputs sales,
            site ≠ other → ∀ d ∈ sides site, (∀ e ∈ sides other, d.typeName ≠ e.typeName) ∧
              (d.IsPrefixed → d.typeName ≠ (({} : Options).renderModel sales other).name)) :=
  ⟨by decide +kernel, by decide +kernel, by decide +kernel,
    nodup_definedNames_iff {} sales rfl rfl (by decide +kernel) (by decide +kernel)
      (by decide +kernel)⟩

/-- Both the order and the invoice have details, of different types and one name. -/
theorem sales_define_details_twice :
    sales.WellFormed ∧ sales.ListsEnd ∧
      ((({} : Options).generateComplete sales).map (·.name)).Nodup ∧
      ¬ (({} : Options).definedNames sales).Nodup := by
  have hnames : ({} : Options).definedNames sales = ["Details", "Order", "Details", "Invoice"] := by
    decide +kernel
  refine ⟨by decide +kernel, by decide +kernel, by decide +kernel, ?_⟩
  rw [hnames]
  decide

end Options

end Typewright
