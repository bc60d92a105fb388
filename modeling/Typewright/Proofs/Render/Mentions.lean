/-
  Typewright/Proofs/Render/Mentions.lean
  ======================================
  **Names that are mentioned** — what a definition lists as used is what its types
  use.

  The names on the list are noted while the types are made, apart from the types
  themselves.  Every step notes just the name that it puts into a box, if it puts one
  there, so the notes of a field are the boxed names of its type, in order
  (`keptBySteps_notesBoxes`).  The list of a definition keeps each of them where it
  comes first, and leaves out the empty one (`mentions_boxedNames`).
-/
import Typewright.Proofs.Types.Boxes

namespace Typewright

/-! ### Names in boxes -/

/-- The names of generated types that stand right inside a box, in order. -/
def TypeExpr.boxedNames : TypeExpr → List String
  | .boxed (.model name) | .boxed (.sibling name) => [name]
  | .boxed inner | .list inner | .map inner | .option inner => inner.boxedNames
  | .scalar _ | .dynamic | .model _ | .sibling _ => []

namespace Traced

variable {α β : Type}

/-- The names that are noted are those in the boxes of the result, and the types that
    are to be defined on the side are among them. -/
structure NotesBoxes (boxes : α → List String) (traced : Traced α) : Prop where
  names : traced.names = boxes traced.value
  inlined : ∀ d ∈ traced.inlined, d.typeName ∈ traced.names

variable {boxes : α → List String}

theorem NotesBoxes.map {boxes' : β → List String} {traced : Traced α} (f : α → β)
    (h : traced.NotesBoxes boxes) (hboxes : boxes' (f traced.value) = boxes traced.value) :
    (f <$> traced).NotesBoxes boxes' where
  names := by rw [names_map, value_map, hboxes, h.names]
  inlined := by
    rw [inlined_map, names_map]
    exact h.inlined

theorem NotesBoxes.all {results : List (Traced α)}
    (h : ∀ traced ∈ results, traced.NotesBoxes boxes) :
    (Traced.all results).NotesBoxes (·.flatMap boxes) where
  names := by
    simp only [Traced.all, List.flatMap_map]
    exact List.flatMap_congr fun traced htraced => (h traced htraced).names
  inlined := by
    intro d hd
    obtain ⟨traced, htraced, hmem⟩ := List.mem_flatMap.mp hd
    exact List.mem_flatMap.mpr ⟨traced, htraced, (h traced htraced).inlined d hmem⟩

end Traced

/-! ### The types of fields -/

namespace Scope

/-- Every step notes the name that it puts into a box, and no other. -/
theorem keptBySteps_notesBoxes (scope : Scope) (field : String) :
    scope.KeptBySteps field (·.NotesBoxes TypeExpr.boxedNames) where
  scalar _ := ⟨rfl, by simp⟩
  dynamic := ⟨rfl, by simp⟩
  unhandled := ⟨rfl, by simp [unhandled, Traced.reporting]⟩
  polymorphic := ⟨rfl, by simp [polymorphic, Traced.reporting]⟩
  dangling _ := ⟨rfl, by simp [byName, Traced.reporting, Traced.mentioning]⟩
  named _ _ := ⟨rfl, by simp [byName, Traced.mentioning]⟩
  tuple _ := ⟨rfl, by simp [Traced.defining]⟩
  record _ _ := ⟨rfl, by simp [Traced.defining]⟩
  list _ h := h.map _ rfl
  map _ h := h.map _ rfl

variable (scope : Scope)

theorem notesBoxes_mapType (shape : Shape) (site : Site) (field : String) :
    (scope.mapType shape site field).NotesBoxes TypeExpr.boxedNames :=
  (scope.keptBySteps_notesBoxes field).mapType shape site

theorem notesBoxes_fieldType (site : Site) (field : String) (required : Bool) :
    (scope.fieldType site field required).NotesBoxes TypeExpr.boxedNames := by
  have heq : scope.fieldType site field required =
      (fun type => if required then type else .option type) <$>
        scope.mapType site.node.shape site field := rfl
  rw [heq]
  refine (scope.notesBoxes_mapType site.node.shape site field).map _ ?_
  cases required <;> rfl

theorem notesBoxes_slotType (slot : Slot) :
    (scope.slotType slot).NotesBoxes TypeExpr.boxedNames := by
  unfold slotType
  cases slot.source with
  | property => exact scope.notesBoxes_fieldType slot.site slot.name slot.required
  | additional | pattern => exact (scope.notesBoxes_mapType .mapValue slot.site _).map _ rfl

theorem notesBoxes_fields (site : Site) :
    (StructHooks.fields {} scope site).NotesBoxes (·.flatMap (·.type.boxedNames)) := by
  apply Traced.NotesBoxes.all
  intro field hfield
  obtain ⟨slot, -, rfl⟩ := List.mem_map.mp hfield
  have heq : StructHooks.field {} scope slot =
      (fun type => ⟨slot.name, scope.slotName slot, type, slot.tag, slot.required⟩) <$>
        scope.slotType slot := rfl
  rw [heq]
  exact (scope.notesBoxes_slotType slot).map _ rfl

theorem notesBoxes_tupleTypes (dependency : Dependency) :
    (scope.tupleTypes dependency).NotesBoxes (·.flatMap TypeExpr.boxedNames) := by
  apply Traced.NotesBoxes.all
  intro type htype
  obtain ⟨index, hindex, rfl⟩ := List.mem_mapIdx.mp htype
  exact scope.notesBoxes_fieldType _ _ true

end Scope

/-! ### The names of a definition -/

theorem Traced.names_dependencies {α : Type} (traced : Traced α) :
    traced.dependencies.names = (traced.names.filter (· ≠ "")).eraseDups := by
  unfold Traced.dependencies Traced.addTo
  rw [Dependencies.foldl_addInlined_names, Dependencies.foldl_addName_names]

namespace Definition

variable {options : Options}

theorem notesBoxes_types (registry : Registry) (hhooks : options.hooks = {})
    (definition : Definition) :
    (definition.types options registry).NotesBoxes (·.flatMap TypeExpr.boxedNames) := by
  have hfields : ∀ (scope : Scope) (site : Site),
      (List.map (·.type) <$> StructHooks.fields {} scope site).NotesBoxes
        (·.flatMap TypeExpr.boxedNames) := by
    intro scope site
    refine (scope.notesBoxes_fields site).map _ ?_
    rw [List.flatMap_map]
  cases definition with
  | model site =>
    simp only [types, hhooks]
    split
    · exact hfields _ site
    · exact ⟨rfl, by simp⟩
  | side dependency =>
    simp only [types, hhooks]
    split
    · exact Scope.notesBoxes_tupleTypes _ dependency
    · exact hfields _ dependency.site

end Definition

/-- **Names that are mentioned.**  A definition lists the names in the boxes of its
    fields or slots, each where it comes first and but for the empty one, and nothing
    else.  The types that it needs on the side are on the list, if they have a name. -/
theorem mentions_boxedNames (options : Options) (registry : Registry)
    (hhooks : options.hooks = {}) (definition : Definition) :
    let types := (definition.types options registry).value
    let listed := (definition.render options registry).dependencies
    listed.names = ((types.flatMap TypeExpr.boxedNames).filter (· ≠ "")).eraseDups ∧
      ∀ needed ∈ listed.inlined, needed.typeName ≠ "" → needed.typeName ∈ listed.names := by
  intro types listed
  have hnotes := definition.notesBoxes_types registry hhooks
  have hnames : listed.names =
      ((definition.types options registry).names.filter (· ≠ "")).eraseDups := by
    simp only [listed, Definition.dependencies_render hhooks, Traced.names_dependencies]
  constructor
  · rw [hnames, hnotes.names]
  · intro needed hneeded hname
    have hmet := Definition.mem_types_of_mem_needs hhooks hneeded
    rw [hnames, List.mem_eraseDups, List.mem_filter]
    exact ⟨hnotes.inlined needed hmet, by simpa using hname⟩

/-- A crew of people, with a name that is missing and one that comes twice. -/
def crew : Node where
  id := some "Crew"
  type := some (.single "object")
  properties := some [("nobody", .refer ""), ("captain", .refer "Person"),
    ("watches", { type := some (.single "array"), items := some (.tuple [.refer "Person"]) }),
    ("mates", .refer "Friends"), ("cabin", { type := some (.single "object") })]
  additional := some (.schema (.refer "Friends"))

open Options (people) in
/-- Persons are listed once though they stand in three fields, and nobody is not. -/
theorem mentions_boxedNames_crew :
    let site := Site.root (.loose 0) crew
    let listed := ((Definition.model site).render {} people).dependencies
    listed.names = ["Person", "CrewWatches", "Cabin"] ∧
      listed.inlined.map (·.typeName) = ["CrewWatches", "Cabin"] ∧
      ∀ needed ∈ listed.inlined, needed.typeName ∈ listed.names := by
  intro site listed
  obtain ⟨hnames, hneeded⟩ := mentions_boxedNames {} people rfl (.model site)
  have hboxes : ((((Definition.model site).types {} people).value.flatMap
      TypeExpr.boxedNames).filter (· ≠ "")).eraseDups = ["Person", "CrewWatches", "Cabin"] := by
    decide +kernel
  have hinlined : listed.inlined.map (·.typeName) = ["CrewWatches", "Cabin"] := by decide +kernel
  refine ⟨hnames.trans hboxes, hinlined, ?_⟩
  intro needed hmem
  apply hneeded needed hmem
  have hname : needed.typeName ∈ ["CrewWatches", "Cabin"] := by
    rw [← hinlined]
    exact List.mem_map_of_mem hmem
  rintro hempty
  rw [hempty] at hname
  revert hname
  decide

end Typewright
