/-
  Typewright/Proofs/Render/Resolution.lean
  ========================================
  **Types that are there** — which names in the types of fields have a definition.

  Two decisions must agree: whether a type is named after a model, and whether that
  model is rendered.  For references they do agree.  For objects that carry the
  identifier of a model they need not: the object is named after the model, be the
  model rendered or not.  Such an object stands in a field, or is itself a model
  without a concrete type but with properties, which is typed as an object and
  rendered as nothing.  Nothing else dangles (`names_resolve_iff`).
-/
import Typewright.Proofs.Naming.Convention
import Typewright.Proofs.Render.Complete

namespace Typewright

open Relation (ReflTransGen TransGen)

/-- Under the default rules the name of a model is made from its identifier alone. -/
theorem NameRules.modelName_default (registry : Registry) (model : Node) :
    ({} : NameRules).modelName registry model =
      identifier Text.pascalCase isReservedWord (model.id.getD "") := by
  simp only [NameRules.modelName, NameRules.context, NameContext.typeName]

namespace Options

variable {options : Options} {registry : Registry} {site : Site}

/-! ### Outputs of models -/

theorem name_renderModel (options : Options) (registry : Registry) (site : Site)
    (hkind : site.node.kind.IsRendered) :
    (options.renderModel registry site).name = options.rules.modelName registry site.node := by
  unfold renderModel
  cases hcase : site.node.kind with
  | object | enumeration | union => rfl
  | array => exact absurd hcase hkind.2
  | primitive => exact absurd hcase hkind.1

theorem name_renderComplete (options : Options) (registry : Registry) (site : Site) :
    (options.renderComplete registry site).name = (options.renderModel registry site).name := by
  unfold renderComplete
  simp only
  split <;> rfl

/-- A model with a name is among the outputs. -/
theorem exists_source (hsite : site ∈ registry.sites)
    (hname : (options.renderModel registry site).name ≠ "") :
    ∃ source ∈ options.generateComplete registry,
      source.name = (options.renderModel registry site).name := by
  have hmem : options.renderComplete registry site ∈
      registry.sites.map (options.renderComplete registry) := List.mem_map_of_mem hsite
  have hfull : (!(options.renderComplete registry site).isEmpty) = true := by
    simpa only [Rendered.isEmpty, name_renderComplete, Bool.not_eq_true', beq_eq_false_iff_ne]
      using hname
  exact ⟨_, List.mem_map_of_mem (List.mem_filter.mpr ⟨hmem, hfull⟩),
    name_renderComplete options registry site⟩

/-- The name is that of an output, or of a definition on the side of the model. -/
def Resolves (options : Options) (registry : Registry) (site : Site) (name : String) : Prop :=
  (∃ source ∈ options.generateComplete registry, source.name = name) ∨
    ∃ rendered ∈ (options.sides registry site).definitions, rendered.name = name

/-- A name that is taken in a complete model resolves. -/
theorem resolves_of_mem_blocks (hsite : site ∈ registry.sites)
    (hname : (options.renderModel registry site).name ≠ "") {name : String}
    (hmem : name ∈ (options.blocks registry site).map (·.name)) :
    options.Resolves registry site name := by
  obtain ⟨rendered, hrendered, rfl⟩ := List.mem_map.mp hmem
  rcases List.mem_append.mp hrendered with hside | hown
  · exact Or.inr ⟨rendered, hside, rfl⟩
  · obtain rfl := List.mem_singleton.mp hown
    exact Or.inl (exists_source hsite hname)

/-- Under the default rules, a model with a rendered kind is among the outputs,
    unless its identifier is empty. -/
theorem exists_source_of_isRendered (hrules : options.rules = {}) (hwf : registry.WellFormed)
    (hids : "" ∉ registry.ids) {id : String} {model : Site}
    (hmodel : registry.site? id = some model) (hkind : model.node.kind.IsRendered) :
    ∃ source ∈ options.generateComplete registry,
      source.name = options.rules.modelName registry model.node := by
  have hid := hwf.id_of_site? hmodel
  have hne : id ≠ "" := by
    rintro rfl
    exact hids (Registry.mem_ids_of_site? hmodel)
  have hname := options.name_renderModel registry model hkind
  rw [← hname]
  refine exists_source (hwf.mem_sites_iff.mpr ⟨id, hmodel⟩) ?_
  rw [hname, hrules, NameRules.modelName_default, hid, Option.getD_some]
  exact identifier_pascalCase_ne_empty isReservedWord hne

/-! ### Roots of definitions -/

section

variable (hhooks : options.hooks = {}) (hwf : registry.WellFormed) (hlists : registry.ListsEnd)
include hhooks hwf hlists

/-- All that is rendered stands in the trees of models. -/
theorem Emits.rooted {ds sources : List Dependency} {state final : Emission}
    (h : options.Emits registry ds state sources final)
    (hroot : ∀ d ∈ ds, registry.Rooted d.site) :
    ∀ source ∈ sources, registry.Rooted source.site := by
  refine h.forall_sources ?_ hroot
  intro d hd e he
  exact Definition.rooted_of_mem_needs hhooks hwf hlists (.side d) hd he

theorem rooted_of_mem_definitions {sources : List Dependency}
    (h : options.Emits registry (options.asked registry site) (options.start registry site) sources
      (options.sides registry site))
    (hsite : site ∈ registry.sites) {definition : Definition}
    (hdefinition : definition ∈ definitions site sources) : registry.Rooted definition.site := by
  rcases mem_definitions.mp hdefinition with ⟨source, hsource, rfl⟩ | rfl
  · exact h.rooted hhooks hwf hlists (clear_start hhooks hwf hlists hsite).1 source hsource
  · obtain ⟨id, hmodel⟩ := hwf.mem_sites_iff.mp hsite
    exact Registry.rooted_of_site? hmodel

/-- Whatever is defined on the side resolves. -/
theorem resolves_of_met {sources : List Dependency}
    (h : options.Emits registry (options.asked registry site) (options.start registry site) sources
      (options.sides registry site))
    (hsite : site ∈ registry.sites) (hname : (options.renderModel registry site).name ≠ "")
    {definition : Definition} (hdefinition : definition ∈ definitions site sources) {d : Dependency}
    (hd : d ∈ (definition.types options registry).inlined) :
    options.Resolves registry site d.typeName := by
  obtain ⟨e, he, hsame⟩ := Definition.exists_same_needs hhooks hd
  have hmet := Definition.mem_types_of_mem_needs hhooks he
  obtain ⟨place, hseen, -⟩ := seenThrough_sides h hname hdefinition he
  rw [← (Definition.eq_of_same hlists hhooks hwf hd hmet hsame).1]
  exact resolves_of_mem_blocks hsite hname (mem_names_of_get? h hseen)

end

end Options

/-! ### Names in the types of a definition -/

namespace Definition

variable {options : Options} {registry : Registry} {definition : Definition}

/-- In the type of a part, the object stands as itself or in lists and maps. -/
def Embeds (options : Options) (registry : Registry) (definition : Definition)
    (object : Site) : Prop :=
  ∃ part ∈ definition.parts options registry, registry.ObjectIn part.shape part.site object

/-- Under the default rules a model has one name, wherever it is named. -/
theorem typeNameIn_eq_modelName (hrules : options.rules = {}) {id : String} {object model : Node}
    (hid : model.id = some id) :
    (definition.scope options registry).typeNameIn object id =
      options.rules.modelName registry model := by
  unfold Scope.typeNameIn NameRules.modelName
  rw [scope_rules, scope_registry, hid, hrules]
  rfl

section

variable (hhooks : options.hooks = {}) (hlists : registry.ListsEnd)
include hhooks hlists

/-- The names in the types of a definition are those that its parts mention. -/
theorem mem_names_types_iff {name : String} :
    (∃ type ∈ (definition.types options registry).value, name ∈ type.names) ↔
      ∃ part ∈ definition.parts options registry,
        name ∈ ((definition.scope options registry).partType part).names := by
  have hvalues := (definition.types_findings registry hhooks).2.2
  constructor
  · rintro ⟨type, htype, hmem⟩
    have hlisted : type.names ∈ (definition.types options registry).value.map TypeExpr.names :=
      List.mem_map_of_mem htype
    rw [hvalues] at hlisted
    obtain ⟨part, hpart, heq⟩ := List.mem_map.mp hlisted
    refine ⟨part, hpart, ?_⟩
    rw [(gives_partType hlists hpart).names_eq, heq]
    exact hmem
  · rintro ⟨part, hpart, hmem⟩
    have hlisted : ((definition.scope options registry).partType part).names ∈
        (definition.types options registry).value.map TypeExpr.names := by
      rw [hvalues, (gives_partType hlists hpart).names_eq]
      exact List.mem_map_of_mem hpart
    obtain ⟨type, htype, heq⟩ := List.mem_map.mp hlisted
    refine ⟨type, htype, ?_⟩
    rw [heq]
    exact hmem

theorem modelName_mem_of_embeds (hrules : options.rules = {}) (hwf : registry.WellFormed)
    {object model : Site} {id : String} (hembeds : definition.Embeds options registry object)
    (hid : object.node.id = some id) (hmodel : registry.site? id = some model) :
    ∃ type ∈ (definition.types options registry).value,
      options.rules.modelName registry model.node ∈ type.names := by
  obtain ⟨part, hpart, hin⟩ := hembeds
  have hcontains := Registry.contains_of_site? hmodel
  have hnames := (gives_partType hlists hpart).names_of_objectIn
    (by rwa [scope_registry]) hid (by rwa [scope_registry])
  rw [typeNameIn_eq_modelName hrules (hwf.id_of_site? hmodel)] at hnames
  refine (mem_names_types_iff hhooks hlists).mpr ⟨part, hpart, ?_⟩
  rw [hnames]
  exact List.mem_singleton.mpr rfl

/-- A name in a type is that of something on the side, of a model with a definition,
    or of an object with the identifier of a model. -/
theorem name_cases (hrules : options.rules = {}) (hwf : registry.WellFormed)
    (hrefs : registry.RefsResolve) (haliases : registry.AliasesEnd)
    (hroot : registry.Rooted definition.site) {type : TypeExpr}
    (htype : type ∈ (definition.types options registry).value) {name : String}
    (hname : name ∈ type.names) :
    (∃ d ∈ (definition.types options registry).inlined, d.typeName = name) ∨
    (∃ id model, registry.site? id = some model ∧ model.node.kind.IsRendered ∧
      options.rules.modelName registry model.node = name) ∨
    ∃ object id model, definition.Embeds options registry object ∧ object.node.id = some id ∧
      registry.site? id = some model ∧ options.rules.modelName registry model.node = name := by
  obtain ⟨part, hpart, hmem⟩ := (mem_names_types_iff hhooks hlists).mp ⟨type, htype, hname⟩
  have hgives := gives_partType hlists hpart
  obtain ⟨hshape, hholds | hany⟩ := part_cases hpart
  · have hsource := hgives.nameSource (by rwa [scope_registry]) (by rwa [scope_registry])
      (by rwa [scope_registry]) (by rw [scope_registry]; exact hroot.part hholds) hmem
    cases hsource with
    | @side d hd hname =>
      left
      refine ⟨d, ?_, hname⟩
      rw [(definition.types_findings registry hhooks).1]
      exact List.mem_flatMap.mpr ⟨part, hpart, hd⟩
    | @model id model hmodel hkind hname =>
      rw [scope_registry] at hmodel hname
      rw [scope_rules] at hname
      exact Or.inr (Or.inl ⟨id, model, hmodel, hkind, hname⟩)
    | @object object id hin hid hcontains hname =>
      rw [scope_registry] at hin hcontains
      obtain ⟨model, hmodel⟩ := Registry.exists_site?_of_contains hcontains
      rw [typeNameIn_eq_modelName hrules (hwf.id_of_site? hmodel)] at hname
      exact Or.inr (Or.inr ⟨object, id, model, ⟨part, hpart, hin⟩, hid, hmodel, hname⟩)
  · -- the schema of any value names nothing
    have hunknown : part.site.node.shape = .unknown := by
      rw [hany]
      rfl
    rw [(hgives.nothing_of_unknown hshape hunknown).1] at hmem
    cases hmem

end

end Definition

/-! ### Objects with the identifier of a model -/

namespace Options

variable {options : Options} {registry : Registry} {site : Site}

/-- **Names resolve but for objects.**  In a registry whose references resolve and
    whose chains end, all names in the types of a definition resolve just if every
    object in them with the identifier of a model does: because that model is
    rendered, or because something else happens to have its name. -/
theorem names_resolve_iff (options : Options) (registry : Registry) (site : Site)
    (hhooks : options.hooks = {}) (hrules : options.rules = {}) (hwf : registry.WellFormed)
    (hids : "" ∉ registry.ids) (hrefs : registry.RefsResolve) (haliases : registry.AliasesEnd)
    (hlists : registry.ListsEnd) (hsite : site ∈ registry.sites)
    (hname : (options.renderModel registry site).name ≠ "") :
    ∃ sources, options.Emits registry (options.asked registry site) (options.start registry site)
        sources (options.sides registry site) ∧
      ∀ definition ∈ definitions site sources,
        (∀ type ∈ (definition.types options registry).value, ∀ name ∈ type.names,
          options.Resolves registry site name) ↔
        ∀ object id model, definition.Embeds options registry object →
          object.node.id = some id → registry.site? id = some model →
            model.node.kind.IsRendered ∨
              options.Resolves registry site (options.rules.modelName registry model.node) := by
  obtain ⟨sources, h⟩ := emits_sides hhooks hwf hlists site
  refine ⟨sources, h, ?_⟩
  intro definition hdefinition
  constructor
  · intro hresolves object id model hembeds hid hmodel
    right
    obtain ⟨type, htype, hmem⟩ :=
      Definition.modelName_mem_of_embeds hhooks hlists hrules hwf hembeds hid hmodel
    exact hresolves type htype _ hmem
  · intro hobjects type htype name hmem
    have hroot := rooted_of_mem_definitions hhooks hwf hlists h hsite hdefinition
    rcases Definition.name_cases hhooks hlists hrules hwf hrefs haliases hroot htype hmem with
      ⟨d, hd, rfl⟩ | ⟨id, model, hmodel, hkind, rfl⟩ |
      ⟨object, id, model, hembeds, hid, hmodel, rfl⟩
    · exact resolves_of_met hhooks hwf hlists h hsite hname hdefinition hd
    · exact Or.inl (exists_source_of_isRendered hrules hwf hids hmodel hkind)
    · rcases hobjects object id model hembeds hid hmodel with hkind | hresolves
      · exact Or.inl (exists_source_of_isRendered hrules hwf hids hmodel hkind)
      · exact hresolves

/-- A model of nothing: no concrete type, but properties, if none of them. -/
def nothing : Node where
  id := some "Nothing"
  type := some (.single "null")
  properties := some []

def form : Node where
  id := some "Form"
  type := some (.single "object")
  properties := some [("field", .refer "Nothing")]

def forms : Registry := ⟨[("Nothing", nothing), ("Form", form)]⟩

/-- For the form the condition decides: its field is made of a model that is not
    rendered. -/
theorem names_resolve_iff_form :
    let site := Site.root (.entry "Form") form
    ∃ sources, ({} : Options).Emits forms (({} : Options).asked forms site)
        (({} : Options).start forms site) sources (({} : Options).sides forms site) ∧
      ∀ definition ∈ definitions site sources,
        (∀ type ∈ (definition.types {} forms).value, ∀ name ∈ type.names,
          ({} : Options).Resolves forms site name) ↔
        ∀ object id model, definition.Embeds {} forms object →
          object.node.id = some id → forms.site? id = some model →
            model.node.kind.IsRendered ∨
              ({} : Options).Resolves forms site (({} : NameRules).modelName forms model.node) :=
  names_resolve_iff {} forms (Site.root (.entry "Form") form) rfl rfl (by decide +kernel)
    (by decide +kernel) (by decide +kernel) (by decide +kernel) (by decide +kernel)
    (List.mem_cons_of_mem _ List.mem_cons_self) (by decide +kernel)

/-- The field of the form is named after a model that nothing defines. -/
theorem form_dangles :
    let site := Site.root (.entry "Form") form
    forms.WellFormed ∧ "" ∉ forms.ids ∧ forms.RefsResolve ∧ forms.AliasesEnd ∧ forms.ListsEnd ∧
      site ∈ forms.sites ∧ (({} : Options).renderModel forms site).name ≠ "" ∧
      ∃ type ∈ ((Definition.model site).types {} forms).value, ∃ name ∈ type.names,
        ¬ ({} : Options).Resolves forms site name := by
  intro site
  have hdangles : ∃ type ∈ ((Definition.model site).types {} forms).value, ∃ name ∈ type.names,
      ¬ ((∃ source ∈ ({} : Options).generateComplete forms, source.name = name) ∨
        ∃ rendered ∈ (({} : Options).sides forms site).definitions, rendered.name = name) := by
    decide +kernel
  exact ⟨by decide +kernel, by decide +kernel, by decide +kernel, by decide +kernel,
    by decide +kernel, List.mem_cons_of_mem _ List.mem_cons_self, by decide +kernel, hdangles⟩

end Options

end Typewright
