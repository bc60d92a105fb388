/-
  Typewright/Proofs/Render/Definition.lean
  ========================================
  **Definitions and their parts** — what a definition has types for, and what it
  needs on the side.

  A complete model is made of definitions of two origins: that of the model
  itself, and those on the side.  Both give types to parts of the node they are
  made from, and need whatever these types need.  So everything that a definition
  needs stands below its node, and is named after its kind and field alone.

  The facts hold for the pieces of text that come with the library; a replaced
  piece may ask for anything.
-/
import Typewright.Proofs.Types.Leaves
import Typewright.Render.Complete

namespace Typewright

open Relation (ReflTransGen TransGen)

/-! ### Definitions -/

/-- The origin of a definition in a complete model. -/
inductive Definition where
  | model (site : Site)
  | side (dependency : Dependency)

/-- A site that gets a type in a definition: under which name and in which
    shape. -/
structure Part where
  field : String
  shape : Shape
  site : Site

namespace Definition

/-- The site that a definition is made from. -/
def site : Definition → Site
  | .model site => site
  | .side dependency => dependency.site

variable (options : Options) (registry : Registry)

def render : Definition → Rendered
  | .model site => options.renderModel registry site
  | .side dependency => options.renderDependency registry dependency

/-- The scope in which the parts get their types. -/
def scope : Definition → Scope
  | .model site => .ofModel options.rules registry site.node
  | .side dependency =>
    match dependency.kind with
    | .tuple => .ofParent options.rules registry dependency
    | .record =>
      { Scope.ofModel options.rules registry dependency.site.node with
        name := dependency.typeName }

/-- The types of the fields or slots, in order. -/
def types (definition : Definition) : Traced (List TypeExpr) :=
  let scope := definition.scope options registry
  let fieldTypes (site : Site) : Traced (List TypeExpr) :=
    List.map (·.type) <$> options.hooks.structs.fields scope site
  match definition with
  | .model site => if site.node.kind = Kind.object then fieldTypes site else pure []
  | .side dependency =>
    match dependency.kind with
    | .tuple => scope.tupleTypes dependency
    | .record => fieldTypes dependency.site

end Definition

/-! ### Parts -/

namespace Scope

/-- The part that a slot of a struct is. -/
def slotPart (scope : Scope) (slot : Slot) : Part :=
  match slot.source with
  | .property => ⟨slot.name, slot.site.node.shape, slot.site⟩
  | .additional | .pattern => ⟨scope.slotTypeName slot, .mapValue, slot.site⟩

def tupleParts (dependency : Dependency) : List Part :=
  dependency.site.slots.mapIdx fun index slot =>
    ⟨dependency.field ++ "_" ++ toString index, slot.node.shape, slot⟩

def partType (scope : Scope) (part : Part) : Traced TypeExpr :=
  scope.mapType part.shape part.site part.field

/-- To be required or not adds nothing to what a field finds. -/
theorem fieldType_findings (scope : Scope) (site : Site) (field : String) (required : Bool) :
    (scope.fieldType site field required).inlined =
        (scope.mapType site.node.shape site field).inlined ∧
      (scope.fieldType site field required).notices =
        (scope.mapType site.node.shape site field).notices ∧
      (scope.fieldType site field required).value.names =
        (scope.mapType site.node.shape site field).value.names := by
  unfold fieldType
  simp only [Traced.inlined_bind, Traced.inlined_pure, Traced.notices_bind, Traced.notices_pure,
    Traced.value_bind, Traced.value_pure, List.append_nil, true_and]
  cases required <;> rfl

theorem slotType_findings (scope : Scope) (slot : Slot) :
    (scope.slotType slot).inlined = (scope.partType (scope.slotPart slot)).inlined ∧
      (scope.slotType slot).notices = (scope.partType (scope.slotPart slot)).notices ∧
      (scope.slotType slot).value.names =
        (scope.partType (scope.slotPart slot)).value.names := by
  unfold slotType slotPart partType
  cases slot.source with
  | property => exact scope.fieldType_findings slot.site slot.name slot.required
  | additional | pattern => simp [TypeExpr.names]

end Scope

/-- The parts of a definition that get a type, in order. -/
def Definition.parts (options : Options) (registry : Registry) (definition : Definition) :
    List Part :=
  let scope := definition.scope options registry
  match definition with
  | .model site =>
    if site.node.kind = Kind.object then (scope.slots site).map scope.slotPart else []
  | .side dependency =>
    match dependency.kind with
    | .tuple => Scope.tupleParts dependency
    | .record => (scope.slots dependency.site).map scope.slotPart

namespace Scope

variable (scope : Scope)

/-- The fields of a struct find what its parts find. -/
theorem fields_findings (site : Site) :
    let types : Traced (List TypeExpr) := List.map (·.type) <$> StructHooks.fields {} scope site
    let parts := (scope.slots site).map scope.slotPart
    types.inlined = parts.flatMap (fun part => (scope.partType part).inlined) ∧
      types.notices = parts.flatMap (fun part => (scope.partType part).notices) ∧
      types.value.map TypeExpr.names = parts.map fun part => (scope.partType part).value.names := by
  have hinlined := fun slot => (scope.slotType_findings slot).1
  have hnotices := fun slot => (scope.slotType_findings slot).2.1
  have hnames := fun slot => (scope.slotType_findings slot).2.2
  simp only [StructHooks.fields, Traced.all, List.map_map, List.flatMap_map, StructHooks.field,
    Function.comp_def, Traced.inlined_bind, Traced.inlined_pure, Traced.notices_bind,
    Traced.notices_pure, Traced.value_bind, Traced.value_pure, Traced.inlined_map,
    Traced.notices_map, Traced.value_map, List.append_nil, hinlined, hnotices, hnames, and_self]

/-- The text of a tuple struct finds what the types of its slots find. -/
theorem tupleText_findings (dependency : Dependency) :
    (scope.tupleText dependency).dependencies = (scope.tupleTypes dependency).dependencies ∧
      (scope.tupleText dependency).notices = (scope.tupleTypes dependency).notices := by
  unfold tupleText
  refine ⟨Traced.dependencies_congr ?_ ?_, ?_⟩
  · rw [Traced.names_bind, Traced.names_pure, List.append_nil]
  · rw [Traced.inlined_bind, Traced.inlined_pure, List.append_nil]
  · rw [Traced.notices_bind, Traced.notices_pure, List.append_nil]

/-- The slots of a tuple find what its parts find. -/
theorem tupleTypes_findings (dependency : Dependency) :
    let types := scope.tupleTypes dependency
    let parts := Scope.tupleParts dependency
    types.inlined = parts.flatMap (fun part => (scope.partType part).inlined) ∧
      types.notices = parts.flatMap (fun part => (scope.partType part).notices) ∧
      types.value.map TypeExpr.names = parts.map fun part => (scope.partType part).value.names := by
  have hfield := scope.fieldType_findings
  simp only [tupleTypes, tupleParts, Traced.all, List.mapIdx_eq_zipIdx_map, List.map_map,
    List.flatMap_map, Function.comp_def, hfield, partType, and_self]

end Scope

/-! ### What is rendered -/

namespace Definition

variable {options : Options} {registry : Registry}

theorem name_render_side (d : Dependency) :
    ((Definition.side d).render options registry).name = d.typeName := by
  simp only [render, Options.renderDependency]
  cases d.kind <;> rfl

@[simp] theorem scope_registry (definition : Definition) :
    (definition.scope options registry).registry = registry := by
  cases definition with
  | model site => rfl
  | side dependency =>
    simp only [scope]
    cases dependency.kind <;> rfl

@[simp] theorem scope_rules (definition : Definition) :
    (definition.scope options registry).rules = options.rules := by
  cases definition with
  | model site => rfl
  | side dependency =>
    simp only [scope]
    cases dependency.kind <;> rfl

/-- A definition finds what its parts find. -/
theorem types_findings (registry : Registry) (hhooks : options.hooks = {})
    (definition : Definition) :
    let scope := definition.scope options registry
    let types := definition.types options registry
    let parts := definition.parts options registry
    types.inlined = parts.flatMap (fun part => (scope.partType part).inlined) ∧
      types.notices = parts.flatMap (fun part => (scope.partType part).notices) ∧
      types.value.map TypeExpr.names = parts.map fun part => (scope.partType part).value.names := by
  cases definition with
  | model site =>
    by_cases hobject : site.node.kind = .object
    · simpa only [types, parts, hobject, if_true, hhooks] using Scope.fields_findings _ site
    · simp only [types, parts, hobject, if_false]
      exact ⟨rfl, rfl, rfl⟩
  | side dependency =>
    simp only [types, parts, hhooks]
    cases dependency.kind with
    | tuple => exact Scope.tupleTypes_findings _ dependency
    | record => exact Scope.fields_findings _ dependency.site

/-- A definition needs and mentions what its types do. -/
theorem dependencies_render (hhooks : options.hooks = {}) (definition : Definition) :
    (definition.render options registry).dependencies =
      (definition.types options registry).dependencies := by
  cases definition with
  | model site =>
    simp only [render, types, Options.renderModel]
    cases hkind : site.node.kind with
    | object =>
      simp only [if_true, Options.renderStruct, StructHooks.render, Rendered.ofText,
        Traced.dependencies_map]
      rfl
    | enumeration | union =>
      simp only [reduceCtorEq, if_false, Options.renderEnum, EnumHooks.render, Rendered.ofText]
      rfl
    | array | primitive => simp only [reduceCtorEq, if_false]; rfl
  | side dependency =>
    simp only [render, types, Options.renderDependency]
    cases hkind : dependency.kind with
    | tuple =>
      simp only [Options.renderTuple, TupleHooks.render, Rendered.ofText, hhooks, scope, hkind]
      rw [(Scope.tupleText_findings _ dependency).1]
    | record =>
      simp only [Options.renderRecord, StructHooks.render, Rendered.ofText,
        Traced.dependencies_map, scope, hkind]

/-- A definition reports no name as taken but for those of its types. -/
theorem nameTaken_mem_types (hhooks : options.hooks = {}) {definition : Definition}
    {name field owner : String}
    (h : .nameTaken name field owner ∈ (definition.render options registry).notices) :
    .nameTaken name field owner ∈ (definition.types options registry).notices := by
  cases definition with
  | model site =>
    simp only [render, types, Options.renderModel] at h ⊢
    cases hkind : site.node.kind with
    | object =>
      simpa only [hkind, if_true, Options.renderStruct, StructHooks.render, Rendered.ofText,
        Traced.notices_map, scope] using h
    | enumeration =>
      simp only [hkind, Options.renderEnum, EnumHooks.render, Rendered.ofText] at h
      cases h
    | union =>
      simp only [hkind, Options.renderEnum, EnumHooks.render, Rendered.ofText,
        Traced.notices_pure, List.mem_singleton, reduceCtorEq] at h
    | array | primitive => simp [hkind] at h
  | side dependency =>
    simp only [render, types, Options.renderDependency] at h ⊢
    cases hkind : dependency.kind with
    | tuple =>
      simp only [hkind, Options.renderTuple, TupleHooks.render, Rendered.ofText, hhooks] at h
      rw [(Scope.tupleText_findings _ dependency).2] at h
      simpa only [scope, hkind] using h
    | record =>
      simpa only [hkind, Options.renderRecord, StructHooks.render, Rendered.ofText,
        Traced.notices_map, scope] using h

/-! ### Parts have types -/

/-- A part stands in the node of the definition, or is the schema of any value. -/
theorem part_cases {definition : Definition} {part : Part}
    (hpart : part ∈ definition.parts options registry) :
    (part.shape = part.site.node.shape ∨ part.shape = .mapValue) ∧
      (definition.site.Holds part.site ∨ part.site.node = {}) := by
  have hslots : ∀ {scope : Scope} {site : Site}, part ∈ (scope.slots site).map scope.slotPart →
      (part.shape = part.site.node.shape ∨ part.shape = .mapValue) ∧
        (site.Holds part.site ∨ part.site.node = {}) := by
    intro scope site hmem
    obtain ⟨slot, hslot, rfl⟩ := List.mem_map.mp hmem
    unfold Scope.slots at hslot
    simp only [List.mem_append, List.mem_map] at hslot
    rcases hslot with (⟨⟨name, site⟩, hproperty, rfl⟩ | ⟨site, hadditional, rfl⟩) |
      ⟨⟨name, site⟩, hpattern, rfl⟩
    · exact ⟨Or.inl rfl, Or.inl (.property hproperty)⟩
    · refine ⟨Or.inr rfl, ?_⟩
      unfold Site.additional? at hadditional
      split at hadditional
      · next node hschema =>
        obtain rfl := List.mem_singleton.mp hadditional
        exact Or.inl (.additional hschema)
      · obtain rfl := List.mem_singleton.mp hadditional
        exact Or.inr rfl
      · cases hadditional
      · cases hadditional
    · exact ⟨Or.inr rfl, Or.inl (.pattern hpattern)⟩
  cases definition with
  | model site =>
    simp only [parts] at hpart
    split at hpart
    · exact hslots hpart
    · cases hpart
  | side dependency =>
    simp only [parts] at hpart
    split at hpart
    · obtain ⟨index, hindex, rfl⟩ := List.mem_mapIdx.mp hpart
      exact ⟨Or.inl rfl, Or.inl (.slot (List.getElem_mem hindex))⟩
    · exact hslots hpart

section

variable (hlists : registry.ListsEnd)
include hlists

theorem gives_partType {definition : Definition} {part : Part}
    (hpart : part ∈ definition.parts options registry) :
    (definition.scope options registry).Gives part.field part.shape part.site
      ((definition.scope options registry).partType part) := by
  have hends : (definition.scope options registry).registry.ListsEnd := by
    rwa [scope_registry]
  unfold Scope.partType
  rcases (part_cases hpart).1 with hshape | hshape
  · rw [hshape]
    exact Scope.gives_mapType hends part.field part.site
  · rw [hshape]
    exact Scope.gives_mapType_mapValue hends part.field part.site

variable (hhooks : options.hooks = {})
include hhooks

/-- No definition reports a name as taken. -/
theorem nameTaken_not_mem (definition : Definition) (name field owner : String) :
    .nameTaken name field owner ∉ (definition.render options registry).notices := by
  intro h
  have hmem := nameTaken_mem_types hhooks h
  rw [(definition.types_findings registry hhooks).2.1, List.mem_flatMap] at hmem
  obtain ⟨part, hpart, hnotice⟩ := hmem
  exact (gives_partType hlists hpart).nameTaken_not_mem name field owner hnotice

variable (hwf : registry.WellFormed)
include hwf

/-- What a definition meets stands below its site, and is named after its kind and
    field. -/
theorem of_mem_types {definition : Definition} {d : Dependency}
    (hd : d ∈ (definition.types options registry).inlined) :
    let scope := definition.scope options registry
    d = scope.dependency d.kind d.field (scope.sideName d.kind d.field) d.site ∧
      TransGen registry.Leads definition.site d.site := by
  rw [(definition.types_findings registry hhooks).1, List.mem_flatMap] at hd
  obtain ⟨part, hpart, hinlined⟩ := hd
  have hgives := gives_partType hlists hpart
  obtain ⟨heq, hpath⟩ := hgives.of_mem_inlined (by rwa [scope_registry]) hinlined
  rw [scope_registry] at hpath
  have hfield : part.field = d.field := by rw [heq]; rfl
  rw [hfield] at heq
  refine ⟨heq, ?_⟩
  rcases (part_cases hpart).2 with hholds | hany
  · exact .head' (.part hholds) hpath
  · have hunknown : part.site.node.shape = .unknown := by rw [hany]; rfl
    rw [(hgives.nothing_of_unknown (part_cases hpart).1 hunknown).2] at hinlined
    cases hinlined

/-- Schemas of one kind and field share their name, their field and its owner. -/
theorem eq_of_same {definition : Definition} {d e : Dependency}
    (hd : d ∈ (definition.types options registry).inlined)
    (he : e ∈ (definition.types options registry).inlined) (hsame : e.Same d) :
    e.typeName = d.typeName ∧ e.field = d.field ∧ e.parentName = d.parentName := by
  obtain ⟨hkind, hfield⟩ := hsame
  rw [(of_mem_types hlists hhooks hwf hd).1, (of_mem_types hlists hhooks hwf he).1, hkind, hfield]
  exact ⟨rfl, rfl, rfl⟩

end

/-! ### What is needed on the side -/

/-- What a definition needs on the side. -/
def needs (options : Options) (registry : Registry) (definition : Definition) :
    List Dependency := (definition.render options registry).dependencies.inlined

theorem mem_types_of_mem_needs (hhooks : options.hooks = {}) {definition : Definition}
    {d : Dependency} (hd : d ∈ definition.needs options registry) :
    d ∈ (definition.types options registry).inlined := by
  unfold needs at hd
  rw [dependencies_render hhooks] at hd
  exact Traced.mem_inlined_of_mem_dependencies hd

/-- Whatever is met has an entry among what is needed. -/
theorem exists_same_needs (hhooks : options.hooks = {}) {definition : Definition}
    {d : Dependency} (hd : d ∈ (definition.types options registry).inlined) :
    ∃ e ∈ definition.needs options registry, e.Same d := by
  unfold needs
  rw [dependencies_render hhooks]
  exact Traced.exists_same_of_mem_inlined hd

section

variable (hhooks : options.hooks = {}) (hwf : registry.WellFormed) (hlists : registry.ListsEnd)
include hhooks hwf hlists

/-- What a definition needs stands below its site. -/
theorem leads_of_mem_needs (definition : Definition) {d : Dependency}
    (hd : d ∈ definition.needs options registry) :
    TransGen registry.Leads definition.site d.site :=
  (of_mem_types hlists hhooks hwf (mem_types_of_mem_needs hhooks hd)).2

theorem rooted_of_mem_needs (definition : Definition) (hroot : registry.Rooted definition.site)
    {d : Dependency} (hd : d ∈ definition.needs options registry) : registry.Rooted d.site := by
  have hpath := leads_of_mem_needs hhooks hwf hlists definition hd
  exact hroot.path hpath.to_reflTransGen

end

end Definition

end Typewright
