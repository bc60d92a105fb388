/-
  Typewright/Proofs/Render/Required.lean
  ======================================
  **Required fields** — when the type of a field is not an option.

  A property is required if it is listed, and also if it is the field name of a name
  that is listed.  The second rule is for lists that are spelled as the generated code
  is.  Where two properties are spelled both ways it could make one of them required
  for the other one's sake.  It does not if no two properties have one field name: the
  field name of a field name is that name itself, so a property that is the field name
  of another one shares it (`isRequired_iff_mem`).  This rests on casing being
  settled, hence on names in ASCII.
-/
import Typewright.Proofs.Render.FieldNames

namespace Typewright

/-! ### Types that are options -/

namespace TypeExpr.Holdable

variable {isName : String → Prop} {type : TypeExpr}

theorem head?_text_ne (h : type.Holdable isName) : type.text.toList.head? ≠ some 'O' := by
  cases h with
  | scalar type => cases type <;> decide
  | dynamic => decide
  | @list item _ =>
    change ("Vec<" ++ item.text ++ ">").toList.head? ≠ some 'O'
    simp [String.toList_append]
  | @map value _ =>
    change ("std::collections::HashMap<String, " ++ value.text ++ ">").toList.head? ≠ some 'O'
    simp [String.toList_append]
  | @model name _ =>
    change ("Box<" ++ ("crate::" ++ name) ++ ">").toList.head? ≠ some 'O'
    simp [String.toList_append]
  | @sibling name _ =>
    change ("Box<" ++ name ++ ">").toList.head? ≠ some 'O'
    simp [String.toList_append]

/-- No type that a field may hold is written like an option. -/
theorem text_ne_option (h : type.Holdable isName) (inner : String) :
    type.text ≠ "Option<" ++ inner ++ ">" := by
  intro heq
  apply h.head?_text_ne
  rw [heq]
  simp [String.toList_append]

end TypeExpr.Holdable

namespace Scope

variable {scope : Scope}

/-- The type of a field is written as an option just if the field is not required. -/
theorem text_fieldType_eq_option_iff (hrules : scope.rules = {}) (site : Site) (field : String)
    (required : Bool) :
    (∃ inner, (scope.fieldType site field required).value.text = "Option<" ++ inner ++ ">") ↔
      required = false := by
  rw [value_fieldType]
  cases required with
  | false => exact ⟨fun _ => rfl, fun _ => ⟨_, rfl⟩⟩
  | true =>
    have hdefault : scope.rules.convention = {} := by rw [hrules]
    have hholds := (keptBySteps_holdsBoxes hdefault field).mapType site.node.shape site
    constructor
    · rintro ⟨inner, heq⟩
      exact absurd heq (hholds.holdable.text_ne_option inner)
    · intro hfalse
      cases hfalse

/-! ### Slots -/

/-- A slot is that of a declared property, or one for a map, which is never required. -/
theorem slot_cases {site : Site} {slot : Slot} (hslot : slot ∈ scope.slots site) :
    (∃ name part, (name, part) ∈ site.properties ∧
      slot = { name, site := part, source := .property, required := scope.isRequired name }) ∨
    (slot.name ∈ site.additionalNames ++ site.patternNames ∧ slot.source ≠ .property ∧
      slot.required = false) := by
  simp only [slots, List.mem_append, List.mem_map] at hslot
  rcases hslot with (⟨⟨name, part⟩, hpart, rfl⟩ | ⟨part, hpart, rfl⟩) | ⟨⟨pattern, part⟩, hpart, rfl⟩
  · exact Or.inl ⟨name, part, hpart, rfl⟩
  · refine Or.inr ⟨List.mem_append_left _ ?_, by simp, rfl⟩
    exact List.mem_map_of_mem hpart
  · refine Or.inr ⟨List.mem_append_right _ ?_, by simp, rfl⟩
    exact List.mem_map_of_mem (List.mem_map_of_mem hpart)

/-- The type of a map is an option. -/
theorem value_slotType_of_ne {slot : Slot} (hsource : slot.source ≠ .property) :
    ∃ inner, (scope.slotType slot).value = .option inner := by
  unfold slotType
  split
  · next hproperty => exact absurd hproperty hsource
  · exact ⟨_, rfl⟩
  · exact ⟨_, rfl⟩

/-! ### Required properties -/

theorem fieldName_fieldName (hrules : scope.rules = {}) {name : String}
    (hascii : Text.IsAscii name) : scope.fieldName (scope.fieldName name) = scope.fieldName name := by
  simp only [fieldName_default hrules]
  exact identifier_identifier (snakeCase_fieldForm hascii)

/-- A name that has no field name in common with a listed one is required just if it is
    listed itself. -/
theorem isRequired_iff_mem (hrules : scope.rules = {}) {names : List String}
    (hascii : ∀ name ∈ names, Text.IsAscii name)
    (hdistinct : (names.map fun name => scope.fieldName name).Nodup)
    (hlisted : ∀ name ∈ scope.model.required, name ∈ names) {name : String}
    (hname : name ∈ names) : scope.isRequired name ↔ name ∈ scope.model.required := by
  unfold isRequired Node.requires
  rw [Bool.or_eq_true, List.contains_iff_mem, List.any_eq_true]
  constructor
  · rintro (hown | ⟨listed, hmem, heq⟩)
    · exact hown
    · have hfield : scope.fieldName listed = name := beq_iff_eq.mp heq
      have hsame : scope.fieldName name = scope.fieldName listed := by
        rw [← hfield, fieldName_fieldName hrules (hascii listed (hlisted listed hmem))]
      rwa [List.inj_on_of_nodup_map hdistinct hname (hlisted listed hmem) hsame]
  · exact Or.inl

end Scope

/-- **Required fields.**  Under the default rules, where the declared names are ASCII
    and have field names that all differ, and only declared names are listed as required,
    a declared property is required just if it is listed by its own name, and its type
    is an option just if it is not.  So the fields of the struct are options but for
    those of listed names, the maps among them. -/
theorem required_iff_listed (scope : Scope) (site : Site) (hrules : scope.rules = {})
    (hmodel : scope.model = site.node)
    (hascii : ∀ name ∈ site.properties.map (·.1), Text.IsAscii name)
    (hdistinct : ((site.properties.map (·.1)).map fun name => scope.fieldName name).Nodup)
    (hlisted : ∀ name ∈ site.node.required, name ∈ site.properties.map (·.1)) :
    (∀ name part, (name, part) ∈ site.properties →
      (scope.isRequired name ↔ name ∈ site.node.required) ∧
      ((∃ inner, (scope.fieldType part name (scope.isRequired name)).value.text =
        "Option<" ++ inner ++ ">") ↔ name ∉ site.node.required)) ∧
    ∀ field ∈ (StructHooks.fields {} scope site).value,
      (field.required ↔ field.schemaName ∈ site.node.required) ∧
      ((∃ inner, field.type.text = "Option<" ++ inner ++ ">") ↔
        field.schemaName ∉ site.node.required) := by
  have hproperties : ∀ name part, (name, part) ∈ site.properties →
      (scope.isRequired name ↔ name ∈ site.node.required) ∧
      ((∃ inner, (scope.fieldType part name (scope.isRequired name)).value.text =
        "Option<" ++ inner ++ ">") ↔ name ∉ site.node.required) := by
    intro name part hpart
    have hrequired : scope.isRequired name ↔ name ∈ site.node.required := by
      rw [← hmodel]
      exact Scope.isRequired_iff_mem hrules hascii hdistinct (by rwa [hmodel])
        (List.mem_map_of_mem hpart)
    refine ⟨hrequired, ?_⟩
    rw [Scope.text_fieldType_eq_option_iff hrules, ← hrequired, Bool.not_eq_true]
  refine ⟨hproperties, ?_⟩
  intro field hfield
  obtain ⟨slot, hslot, hname, -, hrequired, htype⟩ := scope.exists_slot_of_mem_fields hfield
  rw [hname, hrequired, htype]
  rcases Scope.slot_cases hslot with ⟨name, part, hpart, rfl⟩ | ⟨hmade, hsource, hoptional⟩
  · exact hproperties name part hpart
  · have hfree : slot.name ∉ site.node.required := fun hmem =>
      Site.not_mem_of_made hmade (hlisted slot.name hmem)
    obtain ⟨inner, hinner⟩ := scope.value_slotType_of_ne hsource
    rw [hoptional, hinner]
    exact ⟨iff_of_false Bool.false_ne_true hfree, iff_of_true ⟨inner.text, rfl⟩ hfree⟩

/-- A form with names that are cased, escaped and spelled out. -/
def signup : Site := .root (.loose 0) {
  id := some "Signup"
  type := some (.single "object")
  properties := some [
    ("streetName", { type := some (.single "string") }),
    ("type", { type := some (.single "integer") }),
    ("2fa", { type := some (.single "boolean") }),
    ("$", {})]
  additional := some (.allowed true)
  required := ["streetName", "2fa"] }

/-- The two names that are listed have the two types that are no options. -/
theorem required_iff_listed_signup :
    let fields := (StructHooks.fields {} (.ofModel {} {} signup.node) signup).value
    ((∀ name ∈ signup.properties.map (·.1), Text.IsAscii name) ∧
      ((signup.properties.map (·.1)).map fun name =>
        (Scope.ofModel {} {} signup.node).fieldName name).Nodup ∧
      ∀ name ∈ signup.node.required, name ∈ signup.properties.map (·.1)) ∧
    fields.map (fun field => (field.name, field.type.text)) = [
      ("street_name", "String"), ("reserved_type", "Option<i32>"), ("reserved_2fa", "bool"),
      ("dollar", "Option<serde_json::Value>"), ("additional_properties",
        "Option<std::collections::HashMap<String, serde_json::Value>>")] ∧
    ∀ field ∈ fields, (∃ inner, field.type.text = "Option<" ++ inner ++ ">") ↔
      field.schemaName ∉ ["streetName", "2fa"] := by
  have hascii : ∀ name ∈ signup.properties.map (·.1), Text.IsAscii name := by decide
  have hdistinct : ((signup.properties.map (·.1)).map fun name =>
      (Scope.ofModel {} {} signup.node).fieldName name).Nodup := by decide +kernel
  have hlisted : ∀ name ∈ signup.node.required, name ∈ signup.properties.map (·.1) := by decide
  refine ⟨⟨hascii, hdistinct, hlisted⟩, by decide +kernel, ?_⟩
  obtain ⟨-, hfields⟩ := required_iff_listed (.ofModel {} {} signup.node) signup rfl rfl hascii
    hdistinct hlisted
  exact fun field hfield => (hfields field hfield).2

end Typewright
