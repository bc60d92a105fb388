/-
  Typewright/Proofs/Schema/Shape.lean
  ===================================
  **Shapes against kinds** — two classifications of one node.

  The shape of a node decides how it is typed in a field, its kind what is
  rendered for it as a model.  They agree on lists.  On objects they do not: a
  node without any concrete type, but with properties, has the shape of an object
  whatever its kind.
-/
import Typewright.Types.Mapping

namespace Typewright

theorem Shape.ofTypeName_eq_array {name : String} :
    Shape.ofTypeName name = .array ↔ name = "array" := by
  unfold Shape.ofTypeName
  constructor
  · intro h
    repeat' split at h
    all_goals first | assumption | cases h
  · rintro rfl
    rfl

theorem Shape.ofTypeName_ne {name : String} :
    Shape.ofTypeName name ≠ .reference ∧ Shape.ofTypeName name ≠ .mapValue ∧
      Shape.ofTypeName name ≠ .union := by
  unfold Shape.ofTypeName
  refine ⟨?_, ?_, ?_⟩ <;> (repeat' split) <;> intro h <;> cases h

/-- Models of the kind have a definition. -/
def Kind.IsRendered (kind : Kind) : Prop := kind ≠ .primitive ∧ kind ≠ .array

namespace Node

theorem shape_of_reference {node : Node} (h : node.reference.isSome) : node.shape = .reference := by
  unfold shape
  rw [if_pos h]

theorem shape_of_no_reference {node : Node} (h : node.reference = none) :
    node.shape = if node.kind = .union then .union else
      match node.concreteType with
      | some name => Shape.ofTypeName name
      | none => if node.properties.isSome then .object else .unknown := by
  unfold shape
  exact if_neg (by simp [h])

theorem reference_of_shape {node : Node} (h : node.shape = .reference) :
    ∃ reference, node.reference = some reference := by
  cases hreference : node.reference with
  | some reference => exact ⟨reference, rfl⟩
  | none =>
    rw [shape_of_no_reference hreference] at h
    split at h
    · cases h
    · split at h
      · exact (Shape.ofTypeName_ne.1 h).elim
      · split at h <;> cases h

theorem shape_ne_mapValue (node : Node) : node.shape ≠ .mapValue := by
  intro h
  cases hreference : node.reference with
  | some reference =>
    rw [shape_of_reference (by simp [hreference])] at h
    cases h
  | none =>
    rw [shape_of_no_reference hreference] at h
    split at h
    · cases h
    · split at h
      · exact Shape.ofTypeName_ne.2.1 h
      · split at h <;> cases h

/-- What is typed as a list is a list that refers to nothing, and nothing else is. -/
theorem shape_eq_array_iff {node : Node} :
    node.shape = .array ↔ node.reference = none ∧ node.kind = .array := by
  constructor
  · intro hshape
    have hreference : node.reference = none := by
      cases hreference : node.reference with
      | none => rfl
      | some reference =>
        rw [shape_of_reference (by simp [hreference])] at hshape
        cases hshape
    refine ⟨hreference, ?_⟩
    rw [shape_of_no_reference hreference] at hshape
    split at hshape
    · cases hshape
    · split at hshape
      · next name htype =>
        rw [Shape.ofTypeName_eq_array] at hshape
        subst hshape
        unfold kind
        rw [htype]
        rfl
      · split at hshape <;> cases hshape
  · rintro ⟨hreference, hkind⟩
    have htype : node.concreteType = some "array" := by
      unfold kind at hkind
      repeat' split at hkind
      all_goals first | assumption | cases hkind
    rw [shape_of_no_reference hreference, hkind, htype]
    rfl

theorem isInlined_iff {node : Node} :
    node.isInlined ↔ node.reference = none ∧ (node.kind = .primitive ∨ node.kind = .array) := by
  unfold isInlined
  simp only [Bool.and_eq_true, Option.isNone_iff_eq_none, Bool.or_eq_true, decide_eq_true_eq]

theorem isRendered_kind_of_not_isInlined {node : Node} (hreference : node.reference = none)
    (hinlined : ¬ node.isInlined) : node.kind.IsRendered := by
  rw [isInlined_iff] at hinlined
  constructor
  · intro hkind
    exact hinlined ⟨hreference, Or.inl hkind⟩
  · intro hkind
    exact hinlined ⟨hreference, Or.inr hkind⟩

end Node

end Typewright
