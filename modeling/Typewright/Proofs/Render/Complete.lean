/-
  Typewright/Proofs/Render/Complete.lean
  ======================================
  **Complete models** — a definition with all that it needs on the side.

  Where no list reaches itself, a complete model comes to an end, even if its
  models refer to each other in circles.  Its definitions have distinct names, none
  that is needed is missing, and without a warning each comes after what it needs.

  One thing may go wrong in silence.  A definition keeps the first schema of every
  kind and field, and so a second one of the same kind and field gets the
  definition of the first.  That is the only way (`keeps_shapes_iff`).
-/
import Mathlib.Data.List.Chain
import Typewright.Proofs.Render.Order
import Typewright.Proofs.Schema.Decided

namespace Typewright

open Relation (ReflTransGen TransGen)

namespace Options

/-! ### What a complete model is made of -/

/-- What a model needs on the side, if it is rendered at all. -/
def asked (options : Options) (registry : Registry) (site : Site) : List Dependency :=
  let rendered := options.renderModel registry site
  if rendered.isEmpty then [] else rendered.dependencies.inlined

/-- The emission in which a model has its own name and nothing is defined. -/
def start (options : Options) (registry : Registry) (site : Site) : Emission :=
  { seen := [((options.renderModel registry site).name, site.place)] }

/-- The side definitions of a model. -/
def sides (options : Options) (registry : Registry) (site : Site) : Emission :=
  options.emit registry (options.asked registry site) (options.start registry site)

/-- The definitions in a complete model, in order. -/
def blocks (options : Options) (registry : Registry) (site : Site) : List Rendered :=
  (options.sides registry site).definitions ++ [options.renderModel registry site]

variable {options : Options} {registry : Registry} {site : Site}

theorem emit_nil (state : Emission) : options.emit registry [] state = state :=
  emitWithin_nil _ state

/-- At the start only the model has its name. -/
theorem get?_start {name : String} {place : Place} :
    Keyed.get? name (options.start registry site).seen = some place ↔
      (options.renderModel registry site).name = name ∧ site.place = place := by
  simp only [start, Keyed.get?]
  by_cases hname : (options.renderModel registry site).name = name
  · simp only [hname, if_true, Option.some.injEq, true_and]
  · simp only [hname, if_false, reduceCtorEq, false_and]

/-- A complete model is the text of its definitions, with all that they report. -/
theorem renderComplete_eq (options : Options) (registry : Registry) (site : Site) :
    (options.renderComplete registry site).text =
        "\n\n".intercalate ((options.blocks registry site).map (·.text)) ∧
      (options.renderComplete registry site).notices =
        (options.renderModel registry site).notices ++ (options.sides registry site).notices := by
  have hjoin : ∀ text : String, "\n\n".intercalate [text] = text := fun _ => rfl
  unfold renderComplete blocks sides asked
  cases hempty : (options.renderModel registry site).isEmpty with
  | true =>
    simp only [hempty, if_true, emit_nil, start, Bool.true_or, List.nil_append, List.map_cons,
      List.map_nil, hjoin, List.append_nil, and_self]
  | false =>
    cases hneeds : (options.renderModel registry site).dependencies.inlined with
    | nil =>
      simp only [hempty, hneeds, Bool.false_eq_true, if_false, List.isEmpty_nil, Bool.or_true,
        if_true, emit_nil, start, List.nil_append, List.map_cons, List.map_nil, hjoin,
        List.append_nil, and_self]
    | cons first rest =>
      simp only [hempty, hneeds, Bool.false_eq_true, if_false, List.isEmpty_cons, Bool.or_self,
        sideEmission, start, List.map_append, List.map_cons, List.map_nil, and_self]

section

variable (hhooks : options.hooks = {}) (hlists : registry.ListsEnd)
include hhooks hlists

/-- A complete model reports a name as taken where its side definitions do. -/
theorem nameTaken_mem_iff (site : Site) (name field owner : String) :
    .nameTaken name field owner ∈ (options.renderComplete registry site).notices ↔
      .nameTaken name field owner ∈ (options.sides registry site).notices := by
  rw [(renderComplete_eq options registry site).2, List.mem_append]
  have hmodel := Definition.nameTaken_not_mem hlists hhooks (.model site) name field owner
  constructor
  · rintro (hown | hside)
    · exact (hmodel hown).elim
    · exact hside
  · exact Or.inr

end

theorem mem_needs_of_mem_asked {d : Dependency} (hd : d ∈ options.asked registry site) :
    d ∈ (Definition.model site).needs options registry := by
  simp only [asked] at hd
  split at hd
  · cases hd
  · exact hd

theorem asked_eq (hname : (options.renderModel registry site).name ≠ "") :
    options.asked registry site = (Definition.model site).needs options registry := by
  unfold asked
  rw [if_neg]
  · rfl
  · simpa only [Rendered.isEmpty, beq_iff_eq] using hname

theorem asked_eq_nil (hname : (options.renderModel registry site).name = "") :
    options.asked registry site = [] := by
  simp only [asked, Rendered.isEmpty, hname, beq_self_eq_true, if_true]

section

variable (hhooks : options.hooks = {}) (hwf : registry.WellFormed) (hlists : registry.ListsEnd)
include hhooks hwf hlists

theorem emits_sides (site : Site) :
    ∃ sources, options.Emits registry (options.asked registry site)
      (options.start registry site) sources (options.sides registry site) :=
  emits_emit hhooks hwf hlists _ _

/-- Everything that is asked for stands below the model, which is clear of it. -/
theorem clear_start (hsite : site ∈ registry.sites) :
    (∀ d ∈ options.asked registry site, registry.Rooted d.site) ∧
      Clear registry [] (options.start registry site) (options.asked registry site) := by
  obtain ⟨id, hmodel⟩ := hwf.mem_sites_iff.mp hsite
  have hroot := Registry.rooted_of_site? hmodel
  have hneeds : ∀ d ∈ options.asked registry site,
      d ∈ (Definition.model site).needs options registry := fun d hd => mem_needs_of_mem_asked hd
  constructor
  · intro d hd
    exact Definition.rooted_of_mem_needs hhooks hwf hlists (.model site) hroot (hneeds d hd)
  · rintro name place hseen - d hd ⟨last, hpath, rfl⟩
    have hdown := Definition.leads_of_mem_needs hhooks hwf hlists (.model site) (hneeds d hd)
    exact hlists.place_ne hroot (TransGen.trans_left hdown hpath) (get?_start.mp hseen).2.symm

end

/-! ### Definitions of a complete model -/

/-- The origins of all definitions, given the dependencies that were rendered. -/
def definitions (site : Site) (sources : List Dependency) : List Definition :=
  sources.map .side ++ [.model site]

theorem mem_definitions {sources : List Dependency} {definition : Definition} :
    definition ∈ definitions site sources ↔
      (∃ source ∈ sources, .side source = definition) ∨ definition = .model site := by
  simp only [definitions, List.mem_append, List.mem_map, List.mem_singleton]

section

variable {sources : List Dependency}
  (h : options.Emits registry (options.asked registry site) (options.start registry site) sources
    (options.sides registry site))
include h

theorem blocks_eq :
    options.blocks registry site =
      (definitions site sources).map (Definition.render options registry) := by
  unfold blocks definitions
  rw [h.definitions_eq, List.map_append, List.map_map]
  rfl

theorem names_blocks :
    (options.blocks registry site).map (·.name) =
      sources.map (·.typeName) ++ [(options.renderModel registry site).name] := by
  rw [blocks_eq h, definitions, List.map_append, List.map_append, List.map_map, List.map_map]
  congr 1
  refine List.map_congr_left fun d _ => ?_
  exact Definition.name_render_side d

theorem nodup_names_blocks : ((options.blocks registry site).map (·.name)).Nodup := by
  rw [names_blocks h, List.nodup_append]
  refine ⟨h.nodup_names, by simp, ?_⟩
  intro name hname other hother heq
  subst heq
  obtain ⟨d, hd, hdname⟩ := List.mem_map.mp hname
  have hfree := (h.get?_of_mem hd).1
  rw [hdname, List.mem_singleton.mp hother, get?_start.mpr ⟨rfl, rfl⟩] at hfree
  cases hfree

/-- A name that is taken belongs to a definition. -/
theorem mem_names_of_get? {name : String} {place : Place}
    (hseen : Keyed.get? name (options.sides registry site).seen = some place) :
    name ∈ (options.blocks registry site).map (·.name) := by
  rw [names_blocks h]
  rcases h.get?_cases hseen with hstart | ⟨d, hd, rfl, -⟩
  · obtain ⟨rfl, -⟩ := get?_start.mp hstart
    exact List.mem_append_right _ (List.mem_singleton.mpr rfl)
  · exact List.mem_append_left _ (List.mem_map_of_mem hd)

/-- In a model that is rendered, whatever a definition needs is seen through. -/
theorem seenThrough_sides (hname : (options.renderModel registry site).name ≠ "")
    {definition : Definition} (hdefinition : definition ∈ definitions site sources)
    {d : Dependency} (hd : d ∈ definition.needs options registry) :
    SeenThrough (options.sides registry site) d := by
  rcases mem_definitions.mp hdefinition with ⟨source, hsource, rfl⟩ | rfl
  · exact h.seenThrough_needs hsource hd
  · rw [← asked_eq hname] at hd
    exact h.seenThrough hd

end

/-! ### Names and order -/

/-- Where the sources are ordered and finish all that the model asks for, every
    definition comes after what it needs. -/
theorem needs_before {sources : List Dependency} (hordered : options.Ordered registry [] sources)
    (hfinished : ∀ d ∈ (Definition.model site).needs options registry,
      d.typeName ∈ sources.map (·.typeName))
    {before after : List Definition} {definition : Definition}
    (hsplit : definitions site sources = before ++ definition :: after) {d : Dependency}
    (hd : d ∈ definition.needs options registry) :
    ∃ earlier ∈ before, (earlier.render options registry).name = d.typeName := by
  have hside : ∀ {ds : List Dependency}, d.typeName ∈ ds.map (·.typeName) →
      ∃ earlier ∈ ds.map Definition.side, (earlier.render options registry).name = d.typeName := by
    intro ds hmem
    obtain ⟨source, hsource, heq⟩ := List.mem_map.mp hmem
    exact ⟨.side source, List.mem_map_of_mem hsource,
      (Definition.name_render_side source).trans heq⟩
  unfold definitions at hsplit
  rcases List.eq_nil_or_concat after with rfl | ⟨init, last, rfl⟩
  · obtain ⟨rfl, hlast⟩ := List.append_inj' hsplit rfl
    obtain rfl := (List.singleton_inj.mp hlast).symm
    exact hside (hfinished d hd)
  · rw [List.concat_eq_append, ← List.cons_append, ← List.append_assoc] at hsplit
    obtain ⟨hsources, -⟩ := List.append_inj' hsplit rfl
    obtain ⟨first, second, rfl, rfl, hsecond⟩ := List.map_eq_append_iff.mp hsources
    obtain ⟨source, rest, rfl, rfl, -⟩ := List.map_eq_cons_iff.mp hsecond
    have hneeds := (ordered_append.mp hordered).2.1 d hd
    rw [List.nil_append] at hneeds
    exact hside hneeds

/-- **Complete models are complete.**  The definitions that make up the text of a model
    have distinct names; whatever a definition needs is defined; and if no name was
    wanted by two schemas, it is defined before. -/
theorem blocks_complete (options : Options) (registry : Registry) (site : Site)
    (hhooks : options.hooks = {}) (hwf : registry.WellFormed) (hlists : registry.ListsEnd)
    (hsite : site ∈ registry.sites) (hname : (options.renderModel registry site).name ≠ "") :
    let blocks := options.blocks registry site
    (options.renderComplete registry site).text = "\n\n".intercalate (blocks.map (·.text)) ∧
    (blocks.map (·.name)).Nodup ∧
    (∀ block ∈ blocks, ∀ d ∈ block.dependencies.inlined,
      ∃ other ∈ blocks, other.name = d.typeName) ∧
    ((∀ name field owner,
        .nameTaken name field owner ∉ (options.renderComplete registry site).notices) →
      ∀ before block after, blocks = before ++ block :: after →
        ∀ d ∈ block.dependencies.inlined, ∃ earlier ∈ before, earlier.name = d.typeName) := by
  obtain ⟨sources, h⟩ := emits_sides hhooks hwf hlists site
  refine ⟨(renderComplete_eq options registry site).1, nodup_names_blocks h, ?_, ?_⟩
  · intro block hblock d hd
    rw [blocks_eq h] at hblock
    obtain ⟨definition, hdefinition, rfl⟩ := List.mem_map.mp hblock
    obtain ⟨place, hseen, -⟩ := seenThrough_sides h hname hdefinition hd
    exact List.mem_map.mp (mem_names_of_get? h hseen)
  · intro hquiet before block after hsplit d hd
    obtain ⟨hroot, hclear⟩ := clear_start hhooks hwf hlists hsite
    obtain ⟨hfinished, hordered⟩ := h.ordered hhooks hwf hlists hroot hclear
      fun name field owner hmem =>
        hquiet name field owner ((nameTaken_mem_iff hhooks hlists site name field owner).mpr hmem)
    rw [asked_eq hname] at hfinished
    rw [blocks_eq h] at hsplit
    obtain ⟨first, second, hdefinitions, rfl, hsecond⟩ := List.map_eq_append_iff.mp hsplit
    obtain ⟨definition, rest, rfl, rfl, -⟩ := List.map_eq_cons_iff.mp hsecond
    obtain ⟨earlier, hearlier, heq⟩ := needs_before hordered hfinished hdefinitions hd
    exact ⟨_, List.mem_map_of_mem hearlier, heq⟩

/-- A person, with a boss, friends and a home: an object in a field that is no model. -/
def person : Node where
  id := some "Person"
  type := some (.single "object")
  properties := some [("boss", .refer "Person"), ("friends", .refer "Friends"),
    ("home", {
      properties := some [("at", {
        type := some (.single "array")
        items := some (.tuple [.refer "Person", .refer "Friends"]) })] })]

/-- People and their friends, who refer to each other. -/
def people : Registry where
  entries := [("Person", person), ("Friends", {
    id := some "Friends"
    type := some (.single "array")
    items := some (.single (.refer "Person")) })]

/-- A home stands after the tuple in it, and before the person who lives there. -/
theorem blocks_complete_people :
    let site := Site.root (.entry "Person") person
    let blocks := ({} : Options).blocks people site
    blocks.map (·.name) = ["HomeAt", "Home", "Person"] ∧
      ∀ before block after, blocks = before ++ block :: after →
        ∀ d ∈ block.dependencies.inlined, ∃ earlier ∈ before, earlier.name = d.typeName := by
  intro site blocks
  have hnotices : (({} : Options).renderComplete people site).notices = [] := by decide +kernel
  refine ⟨by decide +kernel, (blocks_complete {} people site rfl (by decide +kernel)
    (by decide +kernel) List.mem_cons_self (by decide +kernel)).2.2.2 ?_⟩
  intro name field owner hmem
  rw [hnotices] at hmem
  cases hmem

/-! ### Chains -/

/-- The second dependency is met while the first one is rendered. -/
def Meets (options : Options) (registry : Registry) (d e : Dependency) : Prop :=
  e ∈ (options.renderDependency registry d).dependencies.inlined

section

variable (hhooks : options.hooks = {}) (hwf : registry.WellFormed) (hlists : registry.ListsEnd)
include hhooks hwf hlists

theorem length_le_of_settles {n : Nat} {d : Dependency} {rest : List Dependency}
    (hsettles : registry.Settles n d.site)
    (hchain : List.IsChain (options.Meets registry) (d :: rest)) :
    (d :: rest).length ≤ n + 1 := by
  induction rest generalizing n d with
  | nil => exact Nat.le_add_left 1 n
  | cons e rest ih =>
    obtain ⟨hmeets, hrest⟩ := List.isChain_cons_cons.mp hchain
    have hleads := Definition.leads_of_mem_needs hhooks hwf hlists (.side d) hmeets
    obtain ⟨m, rfl, hsettled⟩ := hsettles.path hleads
    exact Nat.succ_le_succ (ih hsettled hrest)

/-- A chain of dependencies from a model is shorter than the registry. -/
theorem length_chain_lt (hsite : site ∈ registry.sites) {d : Dependency} {rest : List Dependency}
    (hd : d ∈ (options.renderModel registry site).dependencies.inlined)
    (hchain : List.IsChain (options.Meets registry) (d :: rest)) :
    (d :: rest).length < registry.size := by
  obtain ⟨id, hmodel⟩ := hwf.mem_sites_iff.mp hsite
  by_cases hkind : site.node.kind = .array
  · simp only [renderModel, hkind] at hd
    cases hd
  · have hsize := Registry.size_add_listSize_le hmodel hkind
    have hpos := site.node.size_pos
    have hsettles := hlists.settles site (n := site.node.size + registry.listSize - 1)
      (by omega)
    obtain ⟨m, hm, hsettled⟩ := hsettles.path
      (Definition.leads_of_mem_needs hhooks hwf hlists (.model site) hd)
    have hle := length_le_of_settles hhooks hwf hlists hsettled hchain
    omega

end

/-- **Generation ends.**  Where no list reaches itself, every field and every map has
    its type by finitely many rules, every chain of dependencies is shorter than the
    registry, and the complete model is that of a finished run. -/
theorem generation_ends (options : Options) (registry : Registry) (site : Site)
    (hhooks : options.hooks = {}) (hwf : registry.WellFormed) (hlists : registry.ListsEnd)
    (hsite : site ∈ registry.sites) :
    (∀ scope : Scope, scope.registry = registry → ∀ field part,
      scope.Gives field part.node.shape part (scope.mapType part.node.shape part field) ∧
        scope.Gives field .mapValue part (scope.mapType .mapValue part field)) ∧
    (∀ d rest, d ∈ (options.renderModel registry site).dependencies.inlined →
      List.IsChain (options.Meets registry) (d :: rest) →
        (d :: rest).length < registry.size) ∧
    ∃ sources, options.Emits registry (options.asked registry site) (options.start registry site)
        sources (options.sides registry site) ∧
      (options.renderComplete registry site).text =
        "\n\n".intercalate ((sources.map (options.renderDependency registry)
          ++ [options.renderModel registry site]).map (·.text)) := by
  refine ⟨?_, ?_, ?_⟩
  · rintro scope rfl field part
    exact ⟨Scope.gives_mapType hlists field part, Scope.gives_mapType_mapValue hlists field part⟩
  · intro d rest hd hchain
    exact length_chain_lt hhooks hwf hlists hsite hd hchain
  · obtain ⟨sources, h⟩ := emits_sides hhooks hwf hlists site
    refine ⟨sources, h, ?_⟩
    rw [(renderComplete_eq options registry site).1, blocks, h.definitions_eq]
    rfl

/-- A person has a home and a home has a tuple, and there it ends. -/
theorem generation_ends_people :
    let site := Site.root (.entry "Person") person
    (∀ d rest, d ∈ (({} : Options).renderModel people site).dependencies.inlined →
      List.IsChain (({} : Options).Meets people) (d :: rest) → (d :: rest).length < people.size) ∧
    ∃ sources, ({} : Options).Emits people (({} : Options).asked people site)
        (({} : Options).start people site) sources (({} : Options).sides people site) ∧
      (({} : Options).renderComplete people site).text =
        "\n\n".intercalate ((sources.map (({} : Options).renderDependency people)
          ++ [({} : Options).renderModel people site]).map (·.text)) :=
  (generation_ends {} people (Site.root (.entry "Person") person) rfl (by decide +kernel)
    (by decide +kernel) List.mem_cons_self).2

/-! ### Shapes -/

/-- The place of the schema that a name is defined from in a complete model. -/
def origin? (options : Options) (registry : Registry) (site : Site) (name : String) :
    Option Place := Keyed.get? name (options.sides registry site).seen

/-- A name is defined from the model itself or from the source that has it. -/
theorem origin?_eq_some_iff {sources : List Dependency}
    (h : options.Emits registry (options.asked registry site) (options.start registry site) sources
      (options.sides registry site)) {name : String} {place : Place} :
    options.origin? registry site name = some place ↔
      ((options.renderModel registry site).name = name ∧ site.place = place) ∨
        ∃ source ∈ sources, source.typeName = name ∧ source.site.place = place := by
  constructor
  · intro horigin
    rcases h.get?_cases horigin with hstart | hsource
    · exact Or.inl (get?_start.mp hstart)
    · exact Or.inr hsource
  · rintro (⟨rfl, rfl⟩ | ⟨source, hsource, rfl, rfl⟩)
    · exact h.get?_of_get? (get?_start.mpr ⟨rfl, rfl⟩)
    · exact (h.get?_of_mem hsource).2

/-- A warning says that the name of the dependency is that of another schema. -/
def Warns (options : Options) (registry : Registry) (site : Site) (d : Dependency) : Prop :=
  ∃ owner, .nameTaken d.typeName d.field owner ∈ (options.renderComplete registry site).notices

/-- The name of the dependency is defined from its own schema, or else a warning
    says so. -/
def KeepsShape (options : Options) (registry : Registry) (site : Site) (d : Dependency) : Prop :=
  options.origin? registry site d.typeName = some d.site.place ∨ options.Warns registry site d

section

variable (hhooks : options.hooks = {}) (hwf : registry.WellFormed) (hlists : registry.ListsEnd)
include hhooks hwf hlists

/-- A model without a name renders nothing on the side, and no warning. -/
theorem not_keepsShape_of_unnamed (hsite : site ∈ registry.sites)
    (hname : (options.renderModel registry site).name = "") {d : Dependency}
    (hd : d ∈ ((Definition.model site).types options registry).inlined) :
    ¬ options.KeepsShape registry site d := by
  have hsides : options.sides registry site = options.start registry site := by
    unfold sides
    rw [asked_eq_nil hname, emit_nil]
  obtain ⟨id, hmodel⟩ := hwf.mem_sites_iff.mp hsite
  rintro (horigin | ⟨owner, hwarns⟩)
  · rw [origin?, hsides, get?_start] at horigin
    exact hlists.place_ne (Registry.rooted_of_site? hmodel)
      (Definition.of_mem_types hlists hhooks hwf hd).2 horigin.2.symm
  · rw [nameTaken_mem_iff hhooks hlists, hsides] at hwarns
    cases hwarns

/-- In a model that is rendered, a schema keeps its shape just if the entry for its
    kind and field does. -/
theorem keepsShape_of_same {sources : List Dependency}
    (h : options.Emits registry (options.asked registry site) (options.start registry site) sources
      (options.sides registry site))
    (hname : (options.renderModel registry site).name ≠ "") {definition : Definition}
    (hdefinition : definition ∈ definitions site sources) {d : Dependency}
    (hd : d ∈ (definition.types options registry).inlined)
    (hplaces : ∀ e ∈ (definition.types options registry).inlined, e.Same d →
      e.site.place = d.site.place ∨ options.Warns registry site d) :
    options.KeepsShape registry site d := by
  obtain ⟨e, he, hsame⟩ := Definition.exists_same_needs hhooks hd
  have hmet := Definition.mem_types_of_mem_needs hhooks he
  obtain ⟨htypeName, hfield, -⟩ := Definition.eq_of_same hlists hhooks hwf hd hmet hsame
  obtain ⟨place, hseen, hown⟩ := seenThrough_sides h hname hdefinition he
  rcases hown with rfl | hwarned
  · rcases hplaces e hmet hsame with hplace | hwarns
    · left
      rw [← htypeName, ← hplace]
      exact hseen
    · exact Or.inr hwarns
  · right
    refine ⟨e.parentName, ?_⟩
    rw [nameTaken_mem_iff hhooks hlists, ← htypeName, ← hfield]
    exact hwarned

end

/-- **Shapes are kept but for shared entries.**  A definition of a complete model
    keeps the shapes of all that it meets, or warns, just if whatever it meets of one
    kind and field is one schema, and the model has a name. -/
theorem keeps_shapes_iff (options : Options) (registry : Registry) (site : Site)
    (hhooks : options.hooks = {}) (hwf : registry.WellFormed) (hlists : registry.ListsEnd)
    (hsite : site ∈ registry.sites) :
    ∃ sources, options.Emits registry (options.asked registry site) (options.start registry site)
        sources (options.sides registry site) ∧
      ∀ definition ∈ definitions site sources,
        let met := (definition.types options registry).inlined
        (∀ d ∈ met, options.KeepsShape registry site d) ↔
          ((options.renderModel registry site).name ≠ "" ∨ met = []) ∧
            ∀ d ∈ met, ∀ e ∈ met, e.Same d →
              e.site.place = d.site.place ∨ options.Warns registry site d := by
  obtain ⟨sources, h⟩ := emits_sides hhooks hwf hlists site
  refine ⟨sources, h, ?_⟩
  intro definition hdefinition met
  constructor
  · intro hkeeps
    constructor
    · by_cases hname : (options.renderModel registry site).name = ""
      · right
        have hrun := h
        rw [asked_eq_nil hname] at hrun
        obtain rfl := hrun.sources_eq_nil
        obtain rfl := List.mem_singleton.mp hdefinition
        refine List.eq_nil_iff_forall_not_mem.mpr fun d hd => ?_
        exact not_keepsShape_of_unnamed hhooks hwf hlists hsite hname hd (hkeeps d hd)
      · exact Or.inl hname
    · intro d hd e he hsame
      by_cases hwarns : options.Warns registry site d
      · exact Or.inr hwarns
      · obtain ⟨htypeName, hfield, -⟩ := Definition.eq_of_same hlists hhooks hwf hd he hsame
        have horigin := (hkeeps d hd).resolve_right hwarns
        have hother : options.origin? registry site e.typeName = some e.site.place := by
          refine (hkeeps e he).resolve_right fun ⟨owner, hwarned⟩ => hwarns ⟨owner, ?_⟩
          rwa [htypeName, hfield] at hwarned
        rw [htypeName, horigin] at hother
        exact Or.inl (Option.some.inj hother).symm
  · rintro ⟨hnamed, hplaces⟩ d hd
    have hname := hnamed.resolve_right (List.ne_nil_of_mem hd)
    exact keepsShape_of_same hhooks hwf hlists h hname hdefinition hd (hplaces d hd)

/-- A bag with a property that is named like the values of other properties. -/
def bag : Node where
  id := some "Bag"
  type := some (.single "object")
  properties := some [("BagAdditionalProperties", {
    type := some (.single "object")
    properties := some [("x", { type := some (.single "string") })] })]
  additional := some (.schema {
    type := some (.single "object")
    properties := some [("y", { type := some (.single "string") })] })

def bags : Registry := ⟨[("Bag", bag)]⟩

/-- For the bag the condition decides: two schemas share an entry. -/
theorem keeps_shapes_iff_bag :
    let site := Site.root (.entry "Bag") bag
    ∃ sources, ({} : Options).Emits bags (({} : Options).asked bags site)
        (({} : Options).start bags site) sources (({} : Options).sides bags site) ∧
      ∀ definition ∈ definitions site sources,
        let met := (definition.types {} bags).inlined
        (∀ d ∈ met, ({} : Options).KeepsShape bags site d) ↔
          ((({} : Options).renderModel bags site).name ≠ "" ∨ met = []) ∧
            ∀ d ∈ met, ∀ e ∈ met, e.Same d →
              e.site.place = d.site.place ∨ ({} : Options).Warns bags site d :=
  keeps_shapes_iff {} bags (Site.root (.entry "Bag") bag) rfl (by decide +kernel)
    (by decide +kernel) List.mem_cons_self

/-- The values of the bag get the definition of its property, and no warning says
    so. -/
theorem bag_loses_shape :
    let site := Site.root (.entry "Bag") bag
    bags.WellFormed ∧ bags.ListsEnd ∧ site ∈ bags.sites ∧
      ∃ d ∈ ((Definition.model site).types {} bags).inlined,
        ¬ ({} : Options).KeepsShape bags site d := by
  intro site
  have hnotices : (({} : Options).renderComplete bags site).notices = [] := by decide +kernel
  have hmet : ∃ d ∈ ((Definition.model site).types {} bags).inlined,
      ({} : Options).origin? bags site d.typeName ≠ some d.site.place := by decide +kernel
  refine ⟨by decide +kernel, by decide +kernel, List.mem_cons_self, ?_⟩
  obtain ⟨d, hd, horigin⟩ := hmet
  refine ⟨d, hd, ?_⟩
  rintro (hkept | ⟨owner, hwarned⟩)
  · exact horigin hkept
  · rw [hnotices] at hwarned
    cases hwarned

end Options

end Typewright
