/-
  Typewright/Proofs/Render/RecordNames.lean
  =========================================
  **Names of structs on the side** — when a struct for a field takes the name of a model.

  Such a struct is named after its field.  Where that will not do, because the name is
  taken or the field is itself in a struct on the side, the name of the owner is put in
  front.  What comes out is never the owner's own name, but it is not looked up again:
  it may be the name of a model that is named after the owner and the field
  (`recordName_free_iff`).
-/
import Typewright.Proofs.Render.Outputs
import Typewright.Proofs.Types.Moved

namespace Typewright

namespace Scope

variable {scope : Scope} {field : String}

/-- The name of the field alone will not do for its struct. -/
def NeedsOwner (scope : Scope) (field : String) : Prop :=
  scope.model.id.isNone ∨ scope.typeName field = scope.name ∨
    scope.isModelName (scope.typeName field)

instance (scope : Scope) (field : String) : Decidable (scope.NeedsOwner field) := by
  unfold NeedsOwner
  infer_instance

/-- No model of the registry has the name. -/
def IsFree (scope : Scope) (name : String) : Prop :=
  ∀ model ∈ scope.registry.models, scope.rules.modelName scope.registry model ≠ name

theorem isFree_iff {name : String} : scope.IsFree name ↔ ¬ scope.isModelName name := by
  simp [IsFree, isModelName]

theorem typeName_ne_empty (hdefault : scope.rules.convention = {}) (hfield : field ≠ "") :
    scope.typeName field ≠ "" := by
  unfold typeName typeNameIn
  rw [NameRules.typeName_eq hdefault]
  exact identifier_pascalCase_ne_empty _ hfield

theorem recordName_eq (hname : scope.typeName field ≠ "") :
    scope.recordName field =
      if scope.NeedsOwner field then scope.name ++ scope.typeName field
      else scope.typeName field := by
  unfold recordName
  simp only [if_neg hname]
  rfl

/-- **Names of structs on the side.**  Under the default convention the struct for a field
    never has the name of its owner.  It has that of a model just if the name of the
    field alone will not do and the one with the owner in front is that of a model.  So
    only models that are named after the owner, with something behind it, are in its
    way. -/
theorem recordName_free_iff (hdefault : scope.rules.convention = {}) (hfield : field ≠ "") :
    scope.recordName field ≠ "" ∧ scope.recordName field ≠ scope.name ∧
    (scope.IsFree (scope.recordName field) ↔
      (scope.NeedsOwner field → scope.IsFree (scope.name ++ scope.typeName field))) ∧
    ((∀ model ∈ scope.registry.models, ∀ rest ≠ "",
        scope.rules.modelName scope.registry model ≠ scope.name ++ rest) →
      scope.IsFree (scope.recordName field)) := by
  have hname := typeName_ne_empty hdefault hfield
  have hfree : scope.IsFree (scope.recordName field) ↔
      (scope.NeedsOwner field → scope.IsFree (scope.name ++ scope.typeName field)) := by
    rw [recordName_eq hname]
    by_cases howner : scope.NeedsOwner field
    · rw [if_pos howner]
      exact ⟨fun h _ => h, fun h => h howner⟩
    · rw [if_neg howner]
      refine iff_of_true ?_ fun h => absurd h howner
      simp only [NeedsOwner, not_or] at howner
      exact isFree_iff.mpr howner.2.2
  refine ⟨recordName_ne_empty hname, ?_, hfree, ?_⟩
  · rw [recordName_eq hname]
    split
    · exact mt String.append_eq_left_iff.mp hname
    · next howner =>
      simp only [NeedsOwner, not_or] at howner
      exact howner.2.1
  · intro hmodels
    rw [hfree]
    intro _ model hmodel
    exact hmodels model hmodel _ hname

end Scope

/-! ### Pets at an address -/

def pet : Node where
  type := some (.single "object")
  properties := some [("tag", { type := some (.single "string") })]

/-- An address with a pet of its own kind. -/
def address : Node where
  id := some "Address"
  type := some (.single "object")
  properties := some [("pet", pet)]

def fieldless (id : String) : String × Node :=
  (id, { id := some id, type := some (.single "object") })

def kennels : Registry := ⟨[("Address", address), fieldless "Pet"]⟩

/-- There is a model of pets, so that of the address is named after both. -/
theorem recordName_free_iff_kennels :
    let scope := Scope.ofModel {} kennels address
    (scope.rules.convention = {} ∧ "pet" ≠ "") ∧
      scope.recordName "pet" = "AddressPet" ∧ "AddressPet" ≠ scope.name ∧
      scope.IsFree "AddressPet" := by
  intro scope
  have hdefault : scope.rules.convention = {} := rfl
  have hfield : "pet" ≠ "" := by decide
  have hname : scope.recordName "pet" = "AddressPet" := by decide +kernel
  obtain ⟨-, howner, hfree, -⟩ := Scope.recordName_free_iff hdefault hfield
  rw [hname] at howner hfree
  refine ⟨⟨hdefault, hfield⟩, hname, howner, hfree.mpr fun _ => ?_⟩
  rw [Scope.isFree_iff]
  decide +kernel

def crowdedKennels : Registry := ⟨[("Address", address), fieldless "Pet", fieldless "AddressPet"]⟩

/-- The pet of the address gets the name of a third model, and the package defines that
    name twice. -/
theorem crowdedKennels_name_taken :
    let scope := Scope.ofModel {} crowdedKennels address
    scope.recordName "pet" = "AddressPet" ∧ ¬ scope.IsFree "AddressPet" ∧
      ({} : Options).definedNames crowdedKennels =
        ["AddressPet", "Address", "Pet", "AddressPet"] := by
  intro scope
  refine ⟨by decide +kernel, ?_, by decide +kernel⟩
  rw [Scope.isFree_iff]
  decide +kernel

end Typewright
