/-
  Typewright/Proofs/Types/Moved.lean
  ==================================
  **Types in another registry** — a scope that looks things up elsewhere, and when the
  types of its fields stay the same.

  Under the default rules a name is made from the schema alone, but for the name of an
  object in a field: that one depends on whether a model has the name.  So where two
  registries agree on a region of sites, a field in it has the same type in both, given
  that they agree on the names of the objects that its type meets
  (`mapType_moved`).
-/
import Typewright.Proofs.Schema.Agreement
import Typewright.Proofs.Types.Rules

namespace Typewright

/-- Whether a model of the registry has the name. -/
def Registry.hasModelNamed (registry : Registry) (rules : NameRules) (name : String) : Bool :=
  registry.models.any fun model => rules.modelName registry model == name

namespace Scope

/-- The scope with another registry. -/
def moved (scope : Scope) (other : Registry) : Scope := { scope with registry := other }

variable {scope : Scope} {other : Registry}

@[simp] theorem registry_moved : (scope.moved other).registry = other := rfl

@[simp] theorem model_moved : (scope.moved other).model = scope.model := rfl

/-! ### Names -/

section

variable (hrules : scope.rules = {})
include hrules

theorem typeNameIn_moved (model : Node) (name : String) :
    (scope.moved other).typeNameIn model name = scope.typeNameIn model name := by
  simp only [typeNameIn, moved, hrules, NameRules.context, NameContext.typeName]

theorem typeName_moved (name : String) :
    (scope.moved other).typeName name = scope.typeName name := typeNameIn_moved hrules _ name

theorem fieldName_moved (name : String) (field : Option Node) :
    (scope.moved other).fieldName name field = scope.fieldName name field := by
  simp only [fieldName, moved, context, hrules, NameRules.context, NameContext.fieldName]

theorem fileName_moved (name : String) :
    (scope.moved other).fileName name = scope.fileName name := by
  simp only [fileName, moduleName, moved, context, hrules, NameRules.context,
    NameContext.moduleName]

theorem enumMember_moved (name : String) :
    (scope.moved other).enumMember name = scope.enumMember name := by
  simp only [enumMember, moved, context, hrules, NameRules.context, NameContext.enumMember]

theorem additionalType_moved : (scope.moved other).additionalType = scope.additionalType := by
  simp only [additionalType, moved, context, hrules, NameRules.context,
    NameContext.additionalType]

theorem isRequired_moved (field : String) :
    (scope.moved other).isRequired field = scope.isRequired field := by
  unfold isRequired
  simp only [fieldName_moved hrules]
  rfl

theorem tupleName_moved (field : String) :
    (scope.moved other).tupleName field = scope.tupleName field := by
  unfold tupleName
  rw [typeName_moved hrules]
  rfl

/-- The two registries agree on whether the name of an object in the field is taken. -/
theorem recordName_moved {field : String}
    (hnamed : other.hasModelNamed scope.rules (scope.typeName field) =
      scope.registry.hasModelNamed scope.rules (scope.typeName field)) :
    (scope.moved other).recordName field = scope.recordName field := by
  have hmodel : (scope.moved other).isModelName (scope.typeName field) =
      scope.isModelName (scope.typeName field) := hnamed
  unfold recordName
  simp only [typeName_moved hrules, hmodel]
  rfl

end

/-! ### Types -/

/-- Two registries agree on the names of all objects among the dependencies. -/
def SameNames (scope : Scope) (other : Registry) (met : List Dependency) : Prop :=
  ∀ d ∈ met, d.kind = .record →
    other.hasModelNamed scope.rules (scope.typeName d.field) =
      scope.registry.hasModelNamed scope.rules (scope.typeName d.field)

/-- A field without a name of its own has no record, be there models or not. -/
theorem recordName_of_empty {field : String} (hempty : scope.typeName field = "") :
    scope.recordName field = "" := by
  unfold recordName
  simp only [hempty, if_true]

theorem recordName_ne_empty {field : String} (hne : scope.typeName field ≠ "") :
    scope.recordName field ≠ "" := by
  unfold recordName
  simp only [hne, if_false]
  split
  · intro hempty
    exact hne (String.append_eq_empty_iff.mp hempty).2
  · exact hne

theorem mapOfType_moved {inside : Site → Prop} {rule rule' : Rule} {site : Site} {field : String}
    (hsite : inside site)
    (hrule : ∀ next, inside next →
      scope.SameNames other (rule next.node.shape next field).inlined →
        rule' next.node.shape next field = rule next.node.shape next field)
    (hnames : scope.SameNames other (mapOfType rule site field).inlined) :
    mapOfType rule' site field = mapOfType rule site field := by
  by_cases hunknown : site.node.shape = .unknown
  · unfold mapOfType
    rw [hunknown]
  · by_cases hunion : site.node.shape = .union
    · unfold mapOfType
      rw [hunion]
    · rw [mapOfType_eq rule field hunknown hunion, Traced.inlined_map] at hnames
      rw [mapOfType_eq rule field hunknown hunion, mapOfType_eq rule' field hunknown hunion,
        hrule site hsite hnames]

section

variable (hrules : scope.rules = {}) {inside : Site → Prop}
  (hagree : scope.registry.AgreesOn other inside)
include hrules hagree

theorem objectType_moved {site : Site} {field : String} (hsite : inside site)
    (hnames : scope.SameNames other (scope.objectType site field).inlined) :
    (scope.moved other).objectType site field = scope.objectType site field := by
  have hid : site.node.id.filter other.contains = site.node.id.filter scope.registry.contains := by
    cases hid : site.node.id with
    | none => rfl
    | some id => simp only [Option.filter_some, hagree.contains_eq hsite hid]
  unfold objectType at hnames ⊢
  rw [registry_moved, hid]
  cases hmodel : site.node.id.filter scope.registry.contains with
  | some id => simp only [typeNameIn_moved hrules]
  | none =>
    by_cases hempty : scope.typeName field = ""
    · have hempty' : (scope.moved other).typeName field = "" := by
        rw [typeName_moved hrules, hempty]
      simp only [recordName_of_empty hempty, recordName_of_empty hempty', if_true]
    · have hne := recordName_ne_empty hempty
      simp only [hmodel, hne, if_false] at hnames
      have hnamed : other.hasModelNamed scope.rules (scope.typeName field) =
          scope.registry.hasModelNamed scope.rules (scope.typeName field) :=
        hnames _ List.mem_cons_self rfl
      simp only [recordName_moved hrules hnamed, hne, if_false]
      rfl

theorem referenceType_moved {rule rule' : Rule} {site : Site} {field : String}
    (hsite : inside site) (hshape : site.node.shape = .reference)
    (hrule : ∀ next, inside next →
      scope.SameNames other (rule next.node.shape next field).inlined →
        rule' next.node.shape next field = rule next.node.shape next field)
    (hnames : scope.SameNames other (scope.referenceType rule site field).inlined) :
    (scope.moved other).referenceType rule' site field = scope.referenceType rule site field := by
  obtain ⟨reference, hreference⟩ := Node.reference_of_shape hshape
  have htarget := hagree.target?_eq hsite hreference
  simp only [referenceType, hreference, Option.getD_some, registry_moved, htarget] at hnames ⊢
  cases hmodel : scope.registry.target? reference with
  | none => simp only [typeName_moved hrules]
  | some target =>
    simp only [hmodel] at hnames
    by_cases hinlined : target.node.isInlined
    · simp only [hinlined, if_true] at hnames ⊢
      exact hrule target (hagree.target hsite hreference hmodel) hnames
    · simp only [hinlined, Bool.false_eq_true, if_false, typeNameIn_moved hrules]

theorem arrayType_moved {rule rule' : Rule} {site : Site} {field : String} (hsite : inside site)
    (hrule : ∀ next, inside next →
      scope.SameNames other (rule next.node.shape next field).inlined →
        rule' next.node.shape next field = rule next.node.shape next field)
    (hnames : scope.SameNames other (scope.arrayType rule site field).inlined) :
    (scope.moved other).arrayType rule' site field = scope.arrayType rule site field := by
  unfold arrayType at hnames ⊢
  cases hitems : site.node.items with
  | none => rfl
  | some items =>
    cases items with
    | tuple nodes =>
      simp only [tupleName_moved hrules]
      rfl
    | single item =>
      simp only [hitems, Traced.inlined_map] at hnames
      have hitem := hrule (site.part .item item) (hagree.part hsite (.item hitems)) hnames
      simp only [Site.part] at hitem ⊢
      rw [hitem]

/-- One step: if the rule gives the same types to the sites that it is asked for, a site
    has the same type. -/
theorem mapStep_moved {rule rule' : Rule} {shape : Shape} {site : Site} {field : String}
    (hsite : inside site) (hshape : shape = site.node.shape ∨ shape = .mapValue)
    (hrule : ∀ next, inside next →
      scope.SameNames other (rule next.node.shape next field).inlined →
        rule' next.node.shape next field = rule next.node.shape next field)
    (hnames : scope.SameNames other (scope.mapStep rule shape site field).inlined) :
    (scope.moved other).mapStep rule' shape site field = scope.mapStep rule shape site field := by
  cases shape with
  | scalar | union | unknown => rfl
  | object => exact objectType_moved hrules hagree hsite hnames
  | reference =>
    have hreference : site.node.shape = .reference := by
      rcases hshape with h | h
      · exact h.symm
      · cases h
    exact referenceType_moved hrules hagree hsite hreference hrule hnames
  | array => exact arrayType_moved hrules hagree hsite hrule hnames
  | mapValue => exact mapOfType_moved hsite hrule hnames

theorem mapWithin_moved (fuel : Nat) {shape : Shape} {site : Site} {field : String}
    (hsite : inside site) (hshape : shape = site.node.shape ∨ shape = .mapValue)
    (hnames : scope.SameNames other (scope.mapWithin fuel shape site field).inlined) :
    (scope.moved other).mapWithin fuel shape site field =
      scope.mapWithin fuel shape site field := by
  induction fuel generalizing shape site with
  | zero => rfl
  | succ fuel ih =>
    apply mapStep_moved hrules hagree hsite hshape _ hnames
    intro next hnext hsame
    exact ih hnext (Or.inl rfl) hsame

/-- **Types stay the same.**  A field in the region has the same type in a registry that
    agrees on the region, is no smaller, and agrees on the names of the objects that the
    type meets. -/
theorem mapType_moved (hlists : scope.registry.ListsEnd)
    (hsize : scope.registry.size ≤ other.size) {shape : Shape} {site : Site} {field : String}
    (hsite : inside site) (hshape : shape = site.node.shape ∨ shape = .mapValue)
    (hnames : scope.SameNames other (scope.mapType shape site field).inlined) :
    (scope.moved other).mapType shape site field = scope.mapType shape site field := by
  have hbudget : scope.mapBudget site ≤ (scope.moved other).mapBudget site :=
    Nat.succ_le_succ (Nat.add_le_add_right hsize _)
  have hsteps := mapWithin_eq_mapType hlists field hshape hbudget
  calc
    (scope.moved other).mapType shape site field =
        (scope.moved other).mapWithin ((scope.moved other).mapBudget site) shape site field := rfl
    _ = scope.mapWithin ((scope.moved other).mapBudget site) shape site field :=
      mapWithin_moved hrules hagree _ hsite hshape (by rwa [hsteps])
    _ = scope.mapType shape site field := hsteps

end

end Scope

end Typewright
