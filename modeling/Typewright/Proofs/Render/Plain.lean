/-
  Typewright/Proofs/Render/Plain.lean
  ===================================
  **Plain and complete outputs** — what a complete model adds to its own definition.

  Models are rendered on their own, or each with all that it needs on the side.  Both
  ways give an output for the same models, in the same order, and the outputs of a model
  have one name, one file and the same uses.  The text of the complete one ends with that
  of the plain one, below the definitions on the side (`generate_agrees`).

  What is needed need not be defined: a tuple in the property with the empty name would
  have the name of the model itself, which is taken.
-/
import Typewright.Proofs.Package.Modules

namespace Typewright

/-! ### Names on the side -/

theorem fieldTypeName_eq_empty_iff {field : String} : fieldTypeName field = "" ↔ field = "" := by
  constructor
  · intro hempty
    by_contra hfield
    exact identifier_pascalCase_ne_empty isReservedWord hfield hempty
  · rintro rfl
    decide

/-- Only the tuple in the field with the empty name gets the name of its scope. -/
theorem Scope.sideName_eq_name_iff {scope : Scope} (hrules : scope.rules = {})
    (hname : scope.name ≠ "") (kind : DependencyKind) (field : String) :
    scope.sideName kind field = scope.name ↔ kind = .tuple ∧ field = "" := by
  have hsame : scope.name ++ fieldTypeName field = scope.name ↔ field = "" := by
    rw [← fieldTypeName_eq_empty_iff]
    simp
  unfold sideName
  cases kind with
  | tuple =>
    simp only [tupleName, typeName_default hrules, hsame, true_and]
  | record =>
    simp only [recordName, typeName_default hrules, reduceCtorEq, false_and, iff_false]
    intro heq
    by_cases hempty : fieldTypeName field = ""
    · rw [if_pos hempty] at heq
      exact hname heq.symm
    · rw [if_neg hempty] at heq
      split at heq
      · exact hempty (fieldTypeName_eq_empty_iff.mpr (hsame.mp heq))
      · next hfree => exact hfree (Or.inr (Or.inl heq))

namespace Options

variable {options : Options} {registry : Registry} {site : Site}

/-! ### Outputs of both ways -/

theorem dependencies_renderComplete (options : Options) (registry : Registry) (site : Site) :
    (options.renderComplete registry site).dependencies =
      (options.renderModel registry site).dependencies := by
  unfold renderComplete
  simp only
  split <;> rfl

theorem generate_eq (options : Options) (registry : Registry) :
    options.generate registry =
      (options.outputs registry).map fun site => (options.renderModel registry site).toSource := by
  unfold generate sources outputs
  rw [List.filter_map, List.map_map]
  rfl

/-- Objects and enumerations have an output, if their types have a name. -/
theorem name_renderModel_ne_empty_iff :
    (options.renderModel registry site).name ≠ "" ↔
      (site.node.kind = .object ∨ site.node.kind = .enumeration ∨ site.node.kind = .union) ∧
        options.rules.modelName registry site.node ≠ "" := by
  have hkinds : site.node.kind.IsRendered ↔
      site.node.kind = .object ∨ site.node.kind = .enumeration ∨ site.node.kind = .union := by
    unfold Kind.IsRendered
    cases site.node.kind <;> decide
  rw [← hkinds]
  constructor
  · intro hname
    have hrendered := isRendered_of_name_ne_empty hname
    rw [name_renderModel options registry site hrendered] at hname
    exact ⟨hrendered, hname⟩
  · rintro ⟨hrendered, hname⟩
    rwa [name_renderModel options registry site hrendered]

/-! ### Definitions on the side -/

/-- Nothing is defined just if all names that are asked for are taken. -/
theorem Emits.sources_eq_nil_iff {ds sources : List Dependency} {state final : Emission}
    (h : options.Emits registry ds state sources final) :
    sources = [] ↔ ∀ d ∈ ds, ∃ place, Keyed.get? d.typeName state.seen = some place := by
  induction h with
  | done => simp
  | again hseen _ ih => rw [ih, List.forall_mem_cons, and_iff_right ⟨_, hseen⟩]
  | clash hseen _ _ ih =>
    rw [ih, List.forall_mem_cons, and_iff_right ⟨_, hseen⟩]
    rfl
  | fresh hfree =>
    refine iff_of_false (by simp) ?_
    intro htaken
    obtain ⟨place, hseen⟩ := htaken _ List.mem_cons_self
    rw [hfree] at hseen
    cases hseen

/-- The text of a complete model, from the dependencies that were rendered. -/
theorem text_renderComplete {sources : List Dependency}
    (h : options.Emits registry (options.asked registry site) (options.start registry site) sources
      (options.sides registry site)) :
    (options.renderComplete registry site).text =
      if sources = [] then (options.renderModel registry site).text
      else "\n\n".intercalate (sources.map fun d => (options.renderDependency registry d).text)
        ++ "\n\n" ++ (options.renderModel registry site).text := by
  have hdefinitions : (options.sides registry site).definitions.map (·.text) =
      sources.map fun d => (options.renderDependency registry d).text := by
    rw [h.definitions_eq, List.map_append, List.map_map]
    rfl
  rw [(renderComplete_eq options registry site).1, blocks, List.map_append, hdefinitions]
  split
  · next hnone =>
    rw [hnone]
    rfl
  · next hsome =>
    rw [String.intercalate_append_of_ne_nil]
    · rfl
    · simpa using hsome
    · simp

section

variable (hhooks : options.hooks = {}) (hrules : options.rules = {}) (hwf : registry.WellFormed)
  (hlists : registry.ListsEnd)
include hhooks hrules hwf hlists

theorem typeName_eq_name_iff (hname : (options.renderModel registry site).name ≠ "")
    {d : Dependency} (hd : d ∈ (options.renderModel registry site).dependencies.inlined) :
    d.typeName = (options.renderModel registry site).name ↔ d.kind = .tuple ∧ d.field = "" := by
  have hown := name_renderModel options registry site (isRendered_of_name_ne_empty hname)
  have hneeds : d ∈ (Definition.model site).needs options registry := hd
  have heq := (Definition.of_mem_types hlists hhooks hwf
    (Definition.mem_types_of_mem_needs hhooks hneeds)).1
  have htype : d.typeName =
      (Scope.ofModel options.rules registry site.node).sideName d.kind d.field := by
    rw [heq]
    rfl
  rw [hown] at hname
  rw [htype, hown]
  exact Scope.sideName_eq_name_iff hrules hname d.kind d.field

end

/-- **Two ways of rendering.**  Rendered on their own or with all they need, the same
    models have an output: objects and enumerations of which the type has a name.  The
    two outputs of a model differ in their texts only.  The complete one is the plain
    one if nothing is defined on the side, and otherwise the definitions on the side,
    then an empty line and the plain one. -/
theorem generate_agrees (registry : Registry) (hwf : registry.WellFormed)
    (hlists : registry.ListsEnd) :
    let options : Options := {}
    let models := registry.sites.filter fun site =>
      (site.node.kind = .object ∨ site.node.kind = .enumeration ∨ site.node.kind = .union) ∧
        options.rules.modelName registry site.node ≠ ""
    options.generate registry =
      models.map (fun site => (options.renderModel registry site).toSource) ∧
    options.generateComplete registry =
      models.map (fun site => (options.renderComplete registry site).toSource) ∧
    ∀ site ∈ models,
      let plain := (options.renderModel registry site).toSource
      let complete := (options.renderComplete registry site).toSource
      let needs := (options.renderModel registry site).dependencies.inlined
      plain.name = options.rules.modelName registry site.node ∧
      complete.name = plain.name ∧ complete.file = plain.file ∧ complete.uses = plain.uses ∧
      (∀ d ∈ needs, d.typeName = plain.name ↔ d.kind = .tuple ∧ d.field = "") ∧
      ∃ sources : List Dependency,
        options.Emits registry needs (options.start registry site) sources
          (options.sides registry site) ∧
        (sources = [] ↔ ∀ d ∈ needs, d.kind = .tuple ∧ d.field = "") ∧
        complete.text =
          if sources = [] then plain.text
          else "\n\n".intercalate (sources.map fun d => (options.renderDependency registry d).text)
            ++ "\n\n" ++ plain.text := by
  intro options models
  have hhooks : options.hooks = {} := rfl
  have hrules : options.rules = {} := rfl
  have hmodels : options.outputs registry = models := by
    apply List.filter_congr
    intro site _
    rw [Bool.eq_iff_iff, decide_eq_true_iff, ← name_renderModel_ne_empty_iff]
    simp [Rendered.isEmpty]
  refine ⟨?_, ?_, ?_⟩
  · rw [generate_eq, hmodels]
  · rw [generateComplete_eq, hmodels]
  · intro site hsite plain complete needs
    rw [← hmodels] at hsite
    have hname := (mem_outputs_iff.mp hsite).2
    have hrendered := isRendered_of_name_ne_empty hname
    obtain ⟨sources, hemits⟩ := emits_sides hhooks hwf hlists site
    have htext := text_renderComplete hemits
    rw [asked_eq hname] at hemits
    have hown : ∀ d ∈ needs, d.typeName = plain.name ↔ d.kind = .tuple ∧ d.field = "" :=
      fun d hd => typeName_eq_name_iff hhooks hrules hwf hlists hname hd
    refine ⟨name_renderModel options registry site hrendered,
      name_renderComplete options registry site, file_renderComplete options registry site,
      congrArg Dependencies.names (dependencies_renderComplete options registry site), hown,
      sources, hemits, ?_, htext⟩
    rw [hemits.sources_eq_nil_iff]
    refine forall₂_congr fun d hd => ?_
    rw [← hown d hd]
    constructor
    · rintro ⟨place, hseen⟩
      exact (get?_start.mp hseen).1.symm
    · intro heq
      exact ⟨site.place, get?_start.mpr ⟨heq.symm, rfl⟩⟩

/-- Both the order and the invoice have details of their own above them. -/
theorem generate_agrees_sales :
    sales.WellFormed ∧ sales.ListsEnd ∧
      (({} : Options).generate sales).map (·.name) = ["Order", "Invoice"] ∧
      (({} : Options).generateComplete sales).map (·.name) = ["Order", "Invoice"] ∧
      ∀ site ∈ sales.sites, ∃ definitions : List String, definitions ≠ [] ∧
        (({} : Options).renderComplete sales site).text =
          "\n\n".intercalate definitions ++ "\n\n"
            ++ (({} : Options).renderModel sales site).text := by
  have hwf : sales.WellFormed := by decide +kernel
  have hlists : sales.ListsEnd := by decide +kernel
  obtain ⟨hplain, hcomplete, hsites⟩ := generate_agrees sales hwf hlists
  have hmodels : ∀ site ∈ sales.sites, (site.node.kind = .object ∨ site.node.kind = .enumeration ∨
      site.node.kind = .union) ∧ ({} : Options).rules.modelName sales site.node ≠ "" := by
    decide +kernel
  have hnames : sales.sites.map (fun site => (({} : Options).renderModel sales site).name) =
      ["Order", "Invoice"] := by decide +kernel
  have hneeds : ∀ site ∈ sales.sites,
      ¬ ∀ d ∈ (({} : Options).renderModel sales site).dependencies.inlined,
        d.kind = .tuple ∧ d.field = "" := by
    decide +kernel
  have hall : sales.sites.filter (fun site => (site.node.kind = .object ∨
      site.node.kind = .enumeration ∨ site.node.kind = .union) ∧
        ({} : Options).rules.modelName sales site.node ≠ "") = sales.sites := by
    rw [List.filter_eq_self]
    exact fun site hsite => decide_eq_true (hmodels site hsite)
  rw [hall] at hplain hcomplete hsites
  refine ⟨hwf, hlists, ?_, ?_, ?_⟩
  · rw [hplain, List.map_map]
    exact hnames
  · rw [hcomplete, List.map_map, ← hnames]
    exact List.map_congr_left fun site hsite => (hsites site hsite).2.1
  · intro site hsite
    obtain ⟨-, -, -, -, -, sources, -, hsources, htext⟩ := hsites site hsite
    have hsome : sources ≠ [] := fun hnil => hneeds site hsite (hsources.mp hnil)
    refine ⟨sources.map fun d => (({} : Options).renderDependency sales d).text, by simpa, ?_⟩
    rw [if_neg hsome] at htext
    exact htext

/-- A stamp with a list of two places in a field that has no name. -/
def stamp : Node where
  id := some "Stamp"
  type := some (.single "object")
  properties := some [("", {
    type := some (.single "array")
    items := some (.tuple [{ type := some (.single "string") }]) })]

/-- The stamp needs a tuple, but nothing stands above it. -/
theorem stamp_stands_alone :
    let registry : Registry := ⟨[("Stamp", stamp)]⟩
    let site := Site.root (.entry "Stamp") stamp
    let plain := ({} : Options).renderModel registry site
    registry.WellFormed ∧ registry.ListsEnd ∧ site ∈ registry.sites ∧
      plain.dependencies.inlined.map (fun d => (d.kind, d.typeName)) = [(.tuple, "Stamp")] ∧
      ∀ definitions : List String, (({} : Options).renderComplete registry site).text ≠
        "\n\n".intercalate definitions ++ "\n\n" ++ plain.text := by
  intro registry site plain
  have htext : (({} : Options).renderComplete registry site).text = plain.text := by decide +kernel
  refine ⟨by decide +kernel, by decide +kernel, List.mem_cons_self, by decide +kernel, ?_⟩
  intro definitions heq
  rw [htext] at heq
  have hlength := congrArg String.length heq
  simp only [String.length_append] at hlength
  have hgap : "\n\n".length = 2 := rfl
  omega

end Options

end Typewright
