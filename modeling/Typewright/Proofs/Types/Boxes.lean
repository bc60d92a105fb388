/-
  Typewright/Proofs/Types/Boxes.lean
  ==================================
  **Generated types in boxes** — what a field may hold, so that no type contains
  another one.

  A type that held another one by value would have to know its size, and a cycle of
  schemas would have none.  So a generated name stands in a box and nowhere else, and
  an option stands around the type of a whole field only (`types_hold_boxes`).

  The steps to a type are few, and each of them puts at most one list or map around
  the type of another site.  What all steps keep holds of every type
  (`KeptBySteps.mapType`), with no word on the bound of the steps or on cycles.
-/
import Typewright.Proofs.Naming.Convention
import Typewright.Proofs.Render.Complete

namespace Typewright

/-! ### What all steps keep -/

namespace Scope

/-- A property of types in a field that every step keeps. -/
structure KeptBySteps (scope : Scope) (field : String) (P : Traced TypeExpr → Prop) : Prop where
  scalar : ∀ type, P (pure (.scalar type))
  dynamic : P (pure .dynamic)
  unhandled : P (unhandled field)
  polymorphic : P (polymorphic field)
  dangling : ∀ reference, P (do
    Traced.reporting (.dangling reference) ()
    byName (scope.typeName reference))
  named : ∀ model name, P (byName (scope.typeNameIn model name))
  tuple : ∀ site, P (.defining (scope.dependency .tuple field (scope.tupleName field) site)
    (.boxed (.sibling (scope.tupleName field))))
  record : ∀ site, scope.recordName field ≠ "" →
    P (.defining (scope.dependency .record field (scope.recordName field) site)
      (.boxed (.model (scope.recordName field))))
  list : ∀ type, P type → P (.list <$> type)
  map : ∀ type, P type → P (.map <$> type)

namespace KeptBySteps

variable {scope : Scope} {field : String} {P : Traced TypeExpr → Prop}

theorem objectType (h : scope.KeptBySteps field P) (site : Site) :
    P (scope.objectType site field) := by
  by_cases hmodel : ∃ id, site.node.id = some id ∧ scope.registry.contains id
  · obtain ⟨id, hid, hcontains⟩ := hmodel
    rw [scope.objectType_of_contains field hid hcontains]
    exact h.named site.node id
  · rw [scope.objectType_of_not_contains field fun id hid hcontains => hmodel ⟨id, hid, hcontains⟩]
    split
    · exact h.unhandled
    · next hname => exact h.record site hname

/-- One step keeps the property if the rule for other sites has it. -/
theorem mapStep (h : scope.KeptBySteps field P) {rule : Rule}
    (hrule : ∀ shape site, P (rule shape site field)) (shape : Shape) (site : Site) :
    P (scope.mapStep rule shape site field) := by
  cases shape with
  | scalar type => exact h.scalar type
  | union => exact h.polymorphic
  | unknown => exact h.unhandled
  | object => exact h.objectType site
  | reference =>
    simp only [Scope.mapStep, referenceType]
    split
    · exact h.dangling _
    · split
      · exact hrule _ _
      · exact h.named _ _
  | array =>
    simp only [Scope.mapStep, arrayType]
    split
    · exact h.list _ (hrule _ _)
    · exact h.tuple site
    · exact h.unhandled
  | mapValue =>
    simp only [Scope.mapStep, mapOfType]
    apply h.map
    split
    · split
      · exact h.dynamic
      · exact h.unhandled
    · exact h.polymorphic
    · exact hrule _ _

theorem mapWithin (h : scope.KeptBySteps field P) (fuel : Nat) (shape : Shape) (site : Site) :
    P (scope.mapWithin fuel shape site field) := by
  induction fuel generalizing shape site with
  -- A bound that is used up gives the type of what is not handled.
  | zero => exact h.unhandled
  | succ fuel ih => exact h.mapStep ih shape site

theorem mapType (h : scope.KeptBySteps field P) (shape : Shape) (site : Site) :
    P (scope.mapType shape site field) := h.mapWithin _ shape site

end KeptBySteps

end Scope

/-! ### Types that a field may hold -/

/-- Types with generated names in boxes only, and without options. -/
inductive TypeExpr.Holdable (isName : String → Prop) : TypeExpr → Prop where
  | scalar (type : Scalar) : Holdable isName (.scalar type)
  | dynamic : Holdable isName .dynamic
  | list {item : TypeExpr} (hitem : Holdable isName item) : Holdable isName (.list item)
  | map {value : TypeExpr} (hvalue : Holdable isName value) : Holdable isName (.map value)
  | model {name : String} (hname : isName name) : Holdable isName (.boxed (.model name))
  | sibling {name : String} (hname : isName name) : Holdable isName (.boxed (.sibling name))

/-- The names of types of the same file in a type. -/
def TypeExpr.siblings : TypeExpr → List String
  | .scalar _ | .dynamic | .model _ => []
  | .list inner | .map inner | .option inner | .boxed inner => inner.siblings
  | .sibling name => [name]

namespace Scope

/-- A name that the default convention makes in a scope: the type name of some name,
    alone or after the name of the scope. -/
def Generates (scope : Scope) (name : String) : Prop :=
  ∃ owner source, (owner = "" ∨ owner = scope.name) ∧
    name = owner ++ identifier Text.pascalCase scope.rules.isReserved source ∧
    (name = "" → source = "")

variable {scope : Scope}

/-- A generated name cannot be cut short by what stands around it. -/
theorem Generates.isName {name : String} (h : scope.Generates name)
    (hscope : Text.IsName scope.name) : Text.IsName name := by
  obtain ⟨owner, source, howner, rfl, -⟩ := h
  have hsource := isName_identifier scope.rules.isReserved Text.isName_pascalCase source
  apply Text.isName_append ?_ hsource
  rcases howner with rfl | rfl
  · intro c hc
    cases hc
  · exact hscope

theorem generates_of_owner {owner : String} (howner : owner = "" ∨ owner = scope.name)
    (source : String) :
    scope.Generates (owner ++ identifier Text.pascalCase scope.rules.isReserved source) := by
  refine ⟨owner, source, howner, rfl, ?_⟩
  intro hempty
  by_cases hsource : source = ""
  · exact hsource
  · exact absurd (String.append_eq_empty_iff.mp hempty).2
      (identifier_pascalCase_ne_empty scope.rules.isReserved hsource)

section

variable (hdefault : scope.rules.convention = {})
include hdefault

theorem typeNameIn_eq (model : Node) (source : String) :
    scope.typeNameIn model source = identifier Text.pascalCase scope.rules.isReserved source :=
  NameRules.typeName_eq hdefault _ source

theorem generates_typeNameIn (model : Node) (source : String) :
    scope.Generates (scope.typeNameIn model source) := by
  have h : scope.Generates ("" ++ identifier Text.pascalCase scope.rules.isReserved source) :=
    generates_of_owner (Or.inl rfl) source
  rwa [String.empty_append, ← typeNameIn_eq hdefault model] at h

theorem generates_tupleName (field : String) : scope.Generates (scope.tupleName field) := by
  unfold tupleName typeName
  rw [typeNameIn_eq hdefault]
  exact generates_of_owner (Or.inr rfl) field

theorem generates_recordName {field : String} (hname : scope.recordName field ≠ "") :
    scope.Generates (scope.recordName field) := by
  have hplain : scope.typeName field ≠ "" := by
    intro hempty
    apply hname
    simp only [recordName, hempty, if_true]
  simp only [recordName, if_neg hplain]
  split
  · exact generates_tupleName hdefault field
  · exact generates_typeNameIn hdefault scope.model field

end

/-! ### The types of fields -/

/-- A type that a field may hold, with the tuples that it needs on the side. -/
structure HoldsBoxes (scope : Scope) (type : Traced TypeExpr) : Prop where
  holdable : type.value.Holdable scope.Generates
  siblings : type.value.siblings =
    (type.inlined.filter (·.kind = .tuple)).map (·.typeName)

theorem keptBySteps_holdsBoxes (hdefault : scope.rules.convention = {}) (field : String) :
    scope.KeptBySteps field scope.HoldsBoxes where
  scalar type := ⟨.scalar type, rfl⟩
  dynamic := ⟨.dynamic, rfl⟩
  unhandled := ⟨.dynamic, rfl⟩
  polymorphic := ⟨.dynamic, rfl⟩
  dangling reference := ⟨.model (generates_typeNameIn hdefault _ reference), rfl⟩
  named model name := ⟨.model (generates_typeNameIn hdefault model name), rfl⟩
  tuple _ := ⟨.sibling (generates_tupleName hdefault field), rfl⟩
  record _ hname := ⟨.model (generates_recordName hdefault hname), rfl⟩
  list type h := by
    refine ⟨.list h.holdable, ?_⟩
    rw [Traced.inlined_map]
    exact h.siblings
  map type h := by
    refine ⟨.map h.holdable, ?_⟩
    rw [Traced.inlined_map]
    exact h.siblings

theorem value_fieldType (scope : Scope) (site : Site) (field : String) (required : Bool) :
    (scope.fieldType site field required).value =
      if required then (scope.mapType site.node.shape site field).value
      else .option (scope.mapType site.node.shape site field).value := by
  unfold fieldType
  rw [Traced.value_bind, Traced.value_pure]

/-- The type of a field: that of a site, or an option of it. -/
def GivesField (scope : Scope) (type : TypeExpr) : Prop :=
  ∃ shape site field, let inner := (scope.mapType shape site field).value
    type = inner ∨ type = .option inner

theorem givesField_fieldType (scope : Scope) (site : Site) (field : String) (required : Bool) :
    scope.GivesField (scope.fieldType site field required).value := by
  refine ⟨site.node.shape, site, field, ?_⟩
  rw [value_fieldType]
  cases required with
  | true => exact Or.inl rfl
  | false => exact Or.inr rfl

theorem givesField_slotType (scope : Scope) (slot : Slot) :
    scope.GivesField (scope.slotType slot).value := by
  unfold slotType
  cases slot.source with
  | property => exact scope.givesField_fieldType slot.site slot.name slot.required
  | additional | pattern => exact ⟨.mapValue, slot.site, scope.slotTypeName slot, Or.inr rfl⟩

end Scope

/-! ### The types of definitions -/

namespace Definition

variable {options : Options} {registry : Registry}

/-- A field or slot of a definition has a type that its scope gives to fields. -/
theorem givesField_of_mem_types (hhooks : options.hooks = {}) {definition : Definition}
    {type : TypeExpr} (htype : type ∈ (definition.types options registry).value) :
    (definition.scope options registry).GivesField type := by
  have hstruct : ∀ {scope : Scope} {site : Site},
      type ∈ (List.map (·.type) <$> StructHooks.fields {} scope site).value →
        scope.GivesField type := by
    intro scope site hmem
    simp only [StructHooks.fields, Traced.all, Traced.value_map, List.map_map, List.mem_map,
      Function.comp_apply, StructHooks.field, Traced.value_bind, Traced.value_pure] at hmem
    obtain ⟨slot, -, rfl⟩ := hmem
    exact scope.givesField_slotType slot
  cases definition with
  | model site =>
    simp only [types, hhooks] at htype
    split at htype
    · exact hstruct htype
    · cases htype
  | side dependency =>
    simp only [types, hhooks] at htype
    split at htype
    · simp only [Scope.tupleTypes, Traced.all, List.mem_map, List.mem_mapIdx] at htype
      obtain ⟨traced, ⟨index, hindex, rfl⟩, rfl⟩ := htype
      exact Scope.givesField_fieldType _ _ _ true
    · exact hstruct htype

end Definition

/-- **Generated types in boxes.**  Under the default convention, whatever the node and
    its place, its type in a field holds generated names in boxes only and has no
    option in it; a box has a name of the same file in it just for a tuple that is
    needed on the side.  Where no list reaches itself the type is that of a finished
    derivation.  A field has this type if it is required, and an option of it if not.
    So no struct or tuple struct contains another generated type. -/
theorem types_hold_boxes (options : Options) (registry : Registry) (hhooks : options.hooks = {})
    (hdefault : options.rules.convention = {}) :
    (∀ scope : Scope, scope.rules = options.rules → scope.registry = registry →
      ∀ shape site field,
        let type := scope.mapType shape site field
        type.value.Holdable scope.Generates ∧
        type.value.siblings = (type.inlined.filter (·.kind = .tuple)).map (·.typeName) ∧
        (registry.ListsEnd → shape = site.node.shape ∨ shape = .mapValue →
          scope.Gives field shape site type) ∧
        ∀ required, (scope.fieldType site field required).value =
          if required then (scope.mapType site.node.shape site field).value
          else .option (scope.mapType site.node.shape site field).value) ∧
    ∀ definition : Definition, ∀ type ∈ (definition.types options registry).value,
      ∃ inner : TypeExpr, inner.Holdable (definition.scope options registry).Generates ∧
        (type = inner ∨ type = .option inner) := by
  constructor
  · rintro scope hrules rfl shape site field type
    have hholds : scope.HoldsBoxes type :=
      (Scope.keptBySteps_holdsBoxes (by rwa [hrules]) field).mapType shape site
    refine ⟨hholds.holdable, hholds.siblings, ?_, scope.value_fieldType site field⟩
    rintro hlists (rfl | rfl)
    · exact Scope.gives_mapType hlists field site
    · exact Scope.gives_mapType_mapValue hlists field site
  · intro definition type htype
    obtain ⟨shape, site, field, hcases⟩ := Definition.givesField_of_mem_types hhooks htype
    have hrules : (definition.scope options registry).rules.convention = {} := by
      rwa [Definition.scope_rules]
    exact ⟨_, ((Scope.keptBySteps_holdsBoxes hrules field).mapType shape site).holdable, hcases⟩

open Options (people person)

/-- A person and a list of friends. -/
def pair : Site := .root (.loose 0) {
  type := some (.single "array")
  items := some (.tuple [.refer "Person", .refer "Friends"]) }

/-- A pair stands in a box without a path, and whatever a person has stands in boxes
    too, though persons have persons. -/
theorem types_hold_boxes_people :
    (({} : NameRules).modelName people person = "Person" ∧ people.ListsEnd) ∧
    ((Scope.ofModel {} people person).mapType .array pair "pair").value.Holdable
      (Scope.ofModel {} people person).Generates ∧
    ((Scope.ofModel {} people person).mapType .array pair "pair").value.siblings = ["PersonPair"] ∧
    (Scope.ofModel {} people person).Gives "pair" .array pair
      ((Scope.ofModel {} people person).mapType .array pair "pair") ∧
    ∀ type ∈ ((Definition.model (Site.root (.entry "Person") person)).types {} people).value,
      ∃ inner : TypeExpr, inner.Holdable (Scope.ofModel {} people person).Generates ∧
        (type = inner ∨ type = .option inner) := by
  have hlists : people.ListsEnd := by decide
  have hneeded : (((Scope.ofModel {} people person).mapType .array pair "pair").inlined.filter
      (·.kind = .tuple)).map (·.typeName) = ["PersonPair"] := by decide
  obtain ⟨hfields, hdefinitions⟩ := types_hold_boxes {} people rfl rfl
  obtain ⟨hholdable, hsiblings, hgives, -⟩ :=
    hfields (Scope.ofModel {} people person) rfl rfl .array pair "pair"
  refine ⟨⟨by decide, hlists⟩, hholdable, ?_, hgives hlists (Or.inl rfl),
    hdefinitions (.model (Site.root (.entry "Person") person))⟩
  rw [hsiblings]
  exact hneeded

end Typewright
