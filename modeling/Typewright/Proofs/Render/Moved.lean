/-
  Typewright/Proofs/Render/Moved.lean
  ===================================
  **Definitions in another registry** — when a definition stays the same although the
  registry is another one.

  The text of a definition is made from names, which under the default rules come from
  the schema alone, and from the types of its parts.  So where two registries agree on
  what the types of a definition meet, they have the same definition: its text, its
  file, what it needs and what it reports (`Definition.render_eq`).
-/
import Typewright.Proofs.Render.Definition
import Typewright.Proofs.Types.Moved

namespace Typewright

/-! ### Pieces of definitions -/

variable {scope : Scope} {other : Registry}

/-- The slots of a tuple have the types of its parts. -/
theorem Scope.tupleText_moved {dependency : Dependency}
    (hparts : ∀ part ∈ Scope.tupleParts dependency,
      (scope.moved other).partType part = scope.partType part) :
    (scope.moved other).tupleText dependency = scope.tupleText dependency := by
  have htypes : (scope.moved other).tupleTypes dependency = scope.tupleTypes dependency := by
    unfold tupleTypes
    congr 1
    apply List.ext_getElem (by simp only [List.length_mapIdx])
    intro index hindex _
    rw [List.length_mapIdx] at hindex
    have hpart := hparts _ (List.mem_mapIdx.mpr ⟨index, hindex, rfl⟩)
    simp only [partType] at hpart
    simp only [List.getElem_mapIdx, fieldType, hpart]
  unfold tupleText
  rw [htypes]

section

variable (hrules : scope.rules = {})
include hrules

namespace Scope

theorem slots_moved (site : Site) : (scope.moved other).slots site = scope.slots site := by
  unfold slots
  simp only [isRequired_moved hrules]

theorem slotTypeName_moved (slot : Slot) :
    (scope.moved other).slotTypeName slot = scope.slotTypeName slot := by
  unfold slotTypeName
  rw [additionalType_moved hrules]

theorem slotType_moved {slot : Slot}
    (hpart : (scope.moved other).partType (scope.slotPart slot) =
      scope.partType (scope.slotPart slot)) :
    (scope.moved other).slotType slot = scope.slotType slot := by
  unfold slotType
  unfold partType slotPart at hpart
  cases hsource : slot.source with
  | property =>
    simp only [hsource] at hpart
    simp only [fieldType, hpart]
  | additional | pattern =>
    simp only [hsource] at hpart
    simp only [slotTypeName_moved hrules, hpart]

end Scope

theorem Rendered.ofText_moved (name : String) (text : Traced String) :
    Rendered.ofText (scope.moved other) name text = Rendered.ofText scope name text := by
  unfold ofText
  rw [Scope.fileName_moved hrules]

theorem StructHooks.render_moved {site : Site} (constructors : Bool)
    (hparts : ∀ part ∈ (scope.slots site).map scope.slotPart,
      (scope.moved other).partType part = scope.partType part) :
    StructHooks.render {} (scope.moved other) site constructors =
      StructHooks.render {} scope site constructors := by
  have hfields : StructHooks.fields {} (scope.moved other) site =
      StructHooks.fields {} scope site := by
    unfold fields
    rw [Scope.slots_moved hrules]
    congr 1
    apply List.map_congr_left
    intro slot hslot
    have htype := Scope.slotType_moved hrules (hparts _ (List.mem_map_of_mem hslot))
    simp only [field, htype, Scope.slotName, Scope.fieldName_moved hrules]
  unfold render
  rw [Rendered.ofText_moved hrules, hfields]
  rfl

theorem Scope.variantName_moved (candidate literal : String) :
    (scope.moved other).variantName candidate literal = scope.variantName candidate literal := by
  unfold variantName
  rw [enumMember_moved hrules]
  rfl

theorem Scope.memberVariant_moved (slot : VariantSlot) :
    (scope.moved other).memberVariant slot = scope.memberVariant slot := by
  unfold memberVariant
  cases slot.member with
  | type name => rfl
  | literal value =>
    have hdefault : (scope.moved other).isDefault value = scope.isDefault value := rfl
    simp only [unitVariant, payloadVariant, variantName_moved hrules, enumMember_moved hrules,
      hdefault, model_moved]

theorem EnumHooks.render_moved (defaults : Bool) :
    EnumHooks.render {} (scope.moved other) defaults = EnumHooks.render {} scope defaults := by
  have hvariants : ∀ uniform,
      EnumHooks.variants {} (scope.moved other) uniform = EnumHooks.variants {} scope uniform := by
    intro uniform
    simp only [variants, Scope.memberVariant_moved hrules]
    rfl
  unfold render
  rw [Rendered.ofText_moved hrules, hvariants]
  rfl

end

/-! ### Definitions -/

namespace Definition

variable {options : Options} {registry other : Registry} {definition : Definition}

theorem scope_moved (hrules : options.rules = {}) :
    definition.scope options other = (definition.scope options registry).moved other := by
  have hname : ∀ model, options.rules.modelName other model =
      options.rules.modelName registry model := by
    intro model
    rw [hrules]
    simp only [NameRules.modelName, NameRules.context, NameContext.typeName]
  cases definition with
  | model site =>
    simp only [scope, Scope.ofModel, Scope.moved, hname]
  | side dependency =>
    simp only [scope]
    cases dependency.kind with
    | tuple => rfl
    | record => rfl

/-- A definition whose parts have the same types is the same definition. -/
theorem render_congr (hhooks : options.hooks = {}) (hrules : options.rules = {})
    (hparts : ∀ part ∈ definition.parts options registry,
      ((definition.scope options registry).moved other).partType part =
        (definition.scope options registry).partType part) :
    definition.render options other = definition.render options registry := by
  have hscope := @scope_moved options registry other definition hrules
  have hempty : (definition.scope options registry).rules = {} := by rw [scope_rules, hrules]
  cases definition with
  | model site =>
    simp only [scope] at hscope hempty
    simp only [render, Options.renderModel]
    cases hkind : site.node.kind with
    | object =>
      simp only [parts, hkind, if_true, scope] at hparts
      simp only [Options.renderStruct, hhooks, hscope]
      exact StructHooks.render_moved hempty options.constructors hparts
    | enumeration | union =>
      simp only [Options.renderEnum, hhooks, hscope, EnumHooks.render_moved hempty]
    | array | primitive => rfl
  | side dependency =>
    simp only [render, Options.renderDependency]
    cases hkind : dependency.kind with
    | tuple =>
      simp only [scope, hkind] at hscope hempty
      simp only [parts, hkind, scope] at hparts
      simp only [Options.renderTuple, hhooks, hscope, TupleHooks.render,
        Rendered.ofText_moved hempty, Scope.tupleText_moved hparts]
    | record =>
      simp only [scope, hkind] at hscope hempty
      simp only [parts, hkind, scope] at hparts
      simp only [Options.renderRecord, hhooks, hscope]
      refine StructHooks.render_moved ?_ options.constructors hparts
      exact hempty

/-- **Definitions stay the same.**  A definition in the region is the same in a registry
    that agrees on the region, is no smaller, and agrees on the names of the objects that
    the types of the definition meet. -/
theorem render_eq (hhooks : options.hooks = {}) (hrules : options.rules = {})
    {inside : Site → Prop} (hagree : registry.AgreesOn other inside) (hlists : registry.ListsEnd)
    (hsize : registry.size ≤ other.size) (hsite : inside definition.site)
    (hnames : (definition.scope options registry).SameNames other
      (definition.types options registry).inlined) :
    definition.render options other = definition.render options registry := by
  apply render_congr hhooks hrules
  intro part hpart
  obtain ⟨hshape, hplace⟩ := part_cases hpart
  have hinside : inside part.site := by
    rcases hplace with hholds | hany
    · exact hagree.part hsite hholds
    · exact hagree.anyValue hany
  have hmet : (definition.scope options registry).SameNames other
      ((definition.scope options registry).partType part).inlined := by
    intro d hd
    apply hnames
    rw [(definition.types_findings registry hhooks).1]
    exact List.mem_flatMap.mpr ⟨part, hpart, hd⟩
  unfold Scope.partType at hmet ⊢
  apply Scope.mapType_moved _ _ _ _ hinside hshape hmet
  · rw [scope_rules, hrules]
  · rwa [scope_registry]
  · rwa [scope_registry]
  · rwa [scope_registry]

end Definition

end Typewright
