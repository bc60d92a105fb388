/-
  Typewright/Proofs/Render/Constructor.lean
  =========================================
  **Constructors** — that what they set a field to has the type of the field.

  A constructor is written from texts: it takes a box off the text of a type, and it
  leaves out a field by a flag that is computed apart from the type.  So a text that
  only looks like a box would give a parameter of no type, and a wrong flag a field
  without a value.  Neither happens.  A required field has a type that fields may hold,
  any other one an option of such a type, and of all these only boxes are written like
  boxes (`TypeExpr.Holdable.boxed_or_not`).

  A `Constructor` says which parameters there are and what every field is set to, by
  the types alone.  The text that is written is that of a constructor in which every
  field is set once, to a value of its type (`constructor_wellTyped`).
-/
import Typewright.Proofs.Render.Required

namespace Typewright

/-! ### Constructors -/

/-- The type in a box; any other type as it is. -/
def TypeExpr.unboxed : TypeExpr → TypeExpr
  | .boxed inner => inner
  | type => type

/-- What a constructor sets a field to. -/
inductive Setting where
  /-- No value. -/
  | missing
  /-- The parameter with the name of the field, in a box. -/
  | boxed
  /-- The parameter with the name of the field, as it is. -/
  | given
deriving DecidableEq

namespace Setting

/-- The setting for a field of a type. -/
def ofType : TypeExpr → Setting
  | .option _ => .missing
  | .boxed _ => .boxed
  | _ => .given

def text (name : String) : Setting → String
  | .missing => name ++ ": None,"
  | .boxed => name ++ ": Box::new(" ++ name ++ "),"
  | .given => name ++ ","

/-- What a field of the name is set to has the type, given the types of the parameters. -/
inductive HasType (parameters : List (String × TypeExpr)) (name : String) :
    Setting → TypeExpr → Prop where
  | missing (inner : TypeExpr) : HasType parameters name .missing (.option inner)
  | boxed {inner : TypeExpr} (h : (name, inner) ∈ parameters) :
      HasType parameters name .boxed (.boxed inner)
  | given {type : TypeExpr} (h : (name, type) ∈ parameters) :
      HasType parameters name .given type

end Setting

/-- The constructor of a type: its parameters, and what it sets the fields to. -/
structure Constructor where
  type : String
  parameters : List (String × TypeExpr)
  settings : List (String × Setting)

namespace Constructor

def parameterTexts (new : Constructor) : List String :=
  new.parameters.map fun (name, type) => name ++ ": " ++ type.text

def settingTexts (new : Constructor) : List String :=
  new.settings.map fun (name, setting) => "            " ++ setting.text name ++ "\n"

def text (new : Constructor) : String :=
  "impl " ++ new.type ++ " \x7b\n    pub fn new(" ++ ", ".intercalate new.parameterTexts ++ ") -> "
    ++ new.type ++ " \x7b\n        " ++ new.type ++ " \x7b\n" ++ String.join new.settingTexts
    ++ "        \x7d\n    \x7d\n\x7d"

theorem appended_text (new : Constructor) : appended new.text = "\n\n" ++ new.text := by
  apply if_neg
  intro hempty
  have hend := (String.append_eq_empty_iff.mp hempty).2
  revert hend
  decide

/-- The constructor that takes the required fields and sets every field by its type. -/
def ofFields (type : String) (fields : List Field) : Constructor where
  type
  parameters := (fields.filter (·.required)).map fun field => (field.name, field.type.unboxed)
  settings := fields.map fun field => (field.name, .ofType field.type)

end Constructor

/-! ### Boxes in texts -/

namespace TypeExpr

theorem unboxed?_box (inner : String) : unboxed? ("Box<" ++ inner ++ ">") = some inner := by
  have hletters : ("Box<" ++ inner ++ ">").toList =
      'B' :: 'o' :: 'x' :: '<' :: (inner.toList ++ ['>']) := by
    rw [String.toList_append, String.toList_append]
    rfl
  unfold unboxed?
  rw [hletters]
  simp

theorem unboxed?_eq_none {text : String} (h : text.toList.head? ≠ some 'B') :
    unboxed? text = none := by
  unfold unboxed?
  split
  · next rest hletters => exact absurd (by rw [hletters]; rfl) h
  · rfl

/-- Of the types that a field may hold, just the boxes are written like boxes. -/
theorem Holdable.boxed_or_not {isName : String → Prop} {type : TypeExpr}
    (h : type.Holdable isName) :
    (∃ inner, type = .boxed inner ∧ unboxed? type.text = some inner.text) ∨
    (type.unboxed = type ∧ Setting.ofType type = .given ∧ unboxed? type.text = none) := by
  cases h with
  | scalar type => exact Or.inr ⟨rfl, rfl, unboxed?_eq_none (by cases type <;> decide)⟩
  | dynamic => exact Or.inr ⟨rfl, rfl, unboxed?_eq_none (by decide)⟩
  | @list item _ =>
    refine Or.inr ⟨rfl, rfl, unboxed?_eq_none ?_⟩
    change ("Vec<" ++ item.text ++ ">").toList.head? ≠ some 'B'
    simp [String.toList_append]
  | @map value _ =>
    refine Or.inr ⟨rfl, rfl, unboxed?_eq_none ?_⟩
    change ("std::collections::HashMap<String, " ++ value.text ++ ">").toList.head? ≠ some 'B'
    simp [String.toList_append]
  | @model name _ => exact Or.inl ⟨_, rfl, unboxed?_box ("crate::" ++ name)⟩
  | @sibling name _ => exact Or.inl ⟨_, rfl, unboxed?_box name⟩

end TypeExpr

/-! ### Fields -/

namespace Field

/-- The flag of a field agrees with its type: a type that fields may hold if the field is
    required, and an option if it is not. -/
inductive Agrees (isName : String → Prop) (field : Field) : Prop where
  | missing {inner : TypeExpr} (hflag : field.required = false) (htype : field.type = .option inner)
  | required (hflag : field.required = true) (htype : field.type.Holdable isName)

variable {isName : String → Prop} {field : Field}

/-- The parameter of a required field has its type, without the box if there is one. -/
theorem Agrees.parameter_eq (h : field.Agrees isName) (hflag : field.required = true) :
    field.parameter = field.name ++ ": " ++ field.type.unboxed.text := by
  cases h with
  | missing hmissing =>
    rw [hflag] at hmissing
    cases hmissing
  | required _ htype =>
    simp only [parameter]
    rcases htype.boxed_or_not with ⟨inner, hboxed, htext⟩ | ⟨hsame, -, htext⟩
    · rw [htext, hboxed]
      rfl
    · rw [htext, hsame]
      rfl

theorem Agrees.initializer_eq (h : field.Agrees isName) :
    field.initializer = (Setting.ofType field.type).text field.name := by
  unfold initializer
  cases h with
  | missing hflag htype =>
    rw [hflag, htype]
    rfl
  | required hflag htype =>
    rcases htype.boxed_or_not with ⟨inner, hboxed, htext⟩ | ⟨-, hgiven, htext⟩
    · rw [hflag, htext, hboxed]
      rfl
    · rw [hflag, htext, hgiven]
      rfl

/-- A field is set to a value of its type, if there is a parameter for it where it is
    required. -/
theorem Agrees.hasType (h : field.Agrees isName) {parameters : List (String × TypeExpr)}
    (hown : field.required = true → (field.name, field.type.unboxed) ∈ parameters) :
    (Setting.ofType field.type).HasType parameters field.name field.type := by
  cases h with
  | missing _ htype =>
    rw [htype]
    exact .missing _
  | required hflag htype =>
    have hparameter := hown hflag
    rcases htype.boxed_or_not with ⟨inner, hboxed, -⟩ | ⟨hsame, hgiven, -⟩
    · rw [hboxed] at hparameter ⊢
      exact .boxed hparameter
    · rw [hsame] at hparameter
      rw [hgiven]
      exact .given hparameter

theorem Agrees.required_iff (h : field.Agrees isName) :
    field.required = true ↔ ∀ inner, field.type ≠ .option inner := by
  cases h with
  | missing hflag htype => simp [hflag, htype]
  | required hflag htype =>
    refine ⟨fun _ inner hoption => ?_, fun _ => hflag⟩
    rw [hoption] at htype
    cases htype

end Field

/-- What is written from the fields is the constructor by their types. -/
theorem constructorText_eq {isName : String → Prop} (name : String) {fields : List Field}
    (h : ∀ field ∈ fields, field.Agrees isName) :
    constructorText name fields = (Constructor.ofFields name fields).text := by
  have hparameters : (fields.filter (·.required)).map Field.parameter =
      (Constructor.ofFields name fields).parameterTexts := by
    unfold Constructor.parameterTexts Constructor.ofFields
    rw [List.map_map]
    apply List.map_congr_left
    intro field hfield
    obtain ⟨hmem, hflag⟩ := List.mem_filter.mp hfield
    exact (h field hmem).parameter_eq hflag
  have hsettings : (fields.map fun field => "            " ++ field.initializer ++ "\n") =
      (Constructor.ofFields name fields).settingTexts := by
    unfold Constructor.settingTexts Constructor.ofFields
    rw [List.map_map]
    apply List.map_congr_left
    intro field hfield
    rw [(h field hfield).initializer_eq]
    rfl
  unfold constructorText Constructor.text
  rw [hparameters, hsettings]
  rfl

namespace Scope

/-- Under the default convention the flags of all fields agree with their types. -/
theorem agrees_of_mem_fields {scope : Scope} (hdefault : scope.rules.convention = {}) {site : Site}
    {field : Field} (hfield : field ∈ (StructHooks.fields {} scope site).value) :
    field.Agrees scope.Generates := by
  obtain ⟨slot, hslot, -, -, hflag, htype⟩ := scope.exists_slot_of_mem_fields hfield
  rcases slot_cases hslot with ⟨name, part, -, rfl⟩ | ⟨-, hsource, hoptional⟩
  · have hholds := (keptBySteps_holdsBoxes hdefault name).mapType part.node.shape part
    change field.required = scope.isRequired name at hflag
    change field.type = (scope.fieldType part name (scope.isRequired name)).value at htype
    rw [value_fieldType, ← hflag] at htype
    cases hrequired : field.required with
    | false =>
      rw [hrequired] at htype
      exact .missing hrequired htype
    | true =>
      rw [hrequired] at htype
      refine .required hrequired ?_
      rw [htype]
      exact hholds.holdable
  · obtain ⟨inner, hinner⟩ := scope.value_slotType_of_ne hsource
    exact .missing (hflag.trans hoptional) (htype.trans hinner)

end Scope

/-! ### Structs -/

/-- A definition that is a struct with named fields. -/
def Definition.IsStruct : Definition → Prop
  | .model site => site.node.kind = .object
  | .side dependency => dependency.kind = .record

theorem Definition.text_render_struct {options : Options} {registry : Registry}
    (hhooks : options.hooks = {}) {definition : Definition} (hstruct : definition.IsStruct) :
    (definition.render options registry).text =
      (StructHooks.render {} (definition.scope options registry) definition.site
        options.constructors).text := by
  cases definition with
  | model site =>
    change site.node.kind = .object at hstruct
    simp only [render, Options.renderModel, hstruct, Options.renderStruct, hhooks]
    rfl
  | side dependency =>
    change dependency.kind = .record at hstruct
    simp only [render, Options.renderDependency, hstruct, Options.renderRecord, hhooks, scope]
    rfl

/-- **Constructors.**  Under the default hooks and convention, with constructors on, the
    definition of every object ends in a constructor.  It takes a parameter for every
    required field, in order, and sets every field, in order, to a value of the type
    that the field is declared with: to none if that is an option, which it is just if
    the field is not required; to the parameter in a box if it is a box; and else to the
    parameter as it is.  Where fields have names of their own, so have the parameters. -/
theorem constructor_wellTyped (options : Options) (registry : Registry)
    (hhooks : options.hooks = {}) (hdefault : options.rules.convention = {})
    (hconstructors : options.constructors = true) {definition : Definition}
    (hstruct : definition.IsStruct) :
    let scope := definition.scope options registry
    let fields := (StructHooks.fields {} scope definition.site).value
    let new := Constructor.ofFields scope.name fields
    (definition.render options registry).text =
      heading (scope.name ++ " represents a " ++ scope.name ++ " model.") scope.model.description
          structDerive
        ++ braced ("pub struct " ++ scope.name) ((fields.map Field.declaration).map (Text.indent 1))
        ++ ("\n\n" ++ new.text) ∧
    new.parameters =
      (fields.filter (·.required)).map (fun field => (field.name, field.type.unboxed)) ∧
    List.Forall₂ (fun field (name, setting) =>
      name = field.name ∧ setting = .ofType field.type ∧
        setting.HasType new.parameters field.name field.type ∧
        (field.required = true ↔ ∀ inner, field.type ≠ .option inner)) fields new.settings ∧
    ((fields.map (·.name)).Nodup → (new.parameters.map (·.1)).Nodup) := by
  intro scope fields new
  have hagrees : ∀ field ∈ fields, field.Agrees scope.Generates := by
    intro field hfield
    apply Scope.agrees_of_mem_fields ?_ hfield
    rwa [Definition.scope_rules]
  refine ⟨?_, rfl, ?_, ?_⟩
  · rw [Definition.text_render_struct hhooks hstruct, hconstructors, ← new.appended_text,
      ← constructorText_eq scope.name hagrees]
    simp only [StructHooks.render, Rendered.ofText, Traced.value_map, StructHooks.text, if_true,
      List.append_nil]
    rfl
  · change List.Forall₂ _ fields (fields.map fun field => (field.name, Setting.ofType field.type))
    rw [List.forall₂_map_right_iff, List.forall₂_same]
    intro field hfield
    refine ⟨rfl, rfl, (hagrees field hfield).hasType fun hrequired => ?_,
      (hagrees field hfield).required_iff⟩
    apply List.mem_map_of_mem (f := fun field : Field => (field.name, field.type.unboxed))
    exact List.mem_filter.mpr ⟨hfield, hrequired⟩
  · intro hnames
    have hsublist : ((fields.filter (·.required)).map (·.name)).Sublist (fields.map (·.name)) :=
      (List.filter_sublist).map _
    have hparameters : new.parameters.map (·.1) = (fields.filter (·.required)).map (·.name) := by
      simp only [new, Constructor.ofFields, List.map_map]
      rfl
    rw [hparameters]
    exact hnames.sublist hsublist

open Options (people)

/-- A parcel, with its sender and the people that have copies of the label. -/
def parcel : Site := .root (.loose 0) {
  id := some "Parcel"
  type := some (.single "object")
  properties := some [
    ("label", { type := some (.single "string") }),
    ("sender", .refer "Person"),
    ("note", { type := some (.single "string") }),
    ("copies", { type := some (.single "array"), items := some (.single (.refer "Person")) })]
  additional := some (.allowed true)
  required := ["label", "sender", "copies"] }

/-- The sender comes in without its box, and the note is left out. -/
theorem constructor_wellTyped_parcel :
    let options : Options := { constructors := true }
    let scope := (Definition.model parcel).scope options people
    let fields := (StructHooks.fields {} scope parcel).value
    let new := Constructor.ofFields scope.name fields
    (options.hooks = {} ∧ options.rules.convention = {} ∧ (Definition.model parcel).IsStruct) ∧
    fields.map (fun field => (field.name, field.type.text)) = [
      ("label", "String"), ("sender", "Box<crate::Person>"), ("note", "Option<String>"),
      ("copies", "Vec<Box<crate::Person>>"), ("additional_properties",
        "Option<std::collections::HashMap<String, serde_json::Value>>")] ∧
    new.parameterTexts = [
      "label: String", "sender: crate::Person", "copies: Vec<Box<crate::Person>>"] ∧
    new.settings = [("label", .given), ("sender", .boxed), ("note", .missing),
      ("copies", .given), ("additional_properties", .missing)] ∧
    new.text.toList <:+ ((Definition.model parcel).render options people).text.toList ∧
    (new.parameters.map (·.1)).Nodup := by
  intro options scope fields new
  have hstruct : (Definition.model parcel).IsStruct := by
    change parcel.node.kind = .object
    decide
  obtain ⟨htext, -, -, hnames⟩ := constructor_wellTyped options people rfl rfl rfl hstruct
  refine ⟨⟨rfl, rfl, hstruct⟩, by decide +kernel, by decide +kernel, by decide +kernel, ?_,
    hnames (by decide +kernel)⟩
  rw [htext, ← String.append_assoc, String.toList_append]
  exact List.suffix_append _ _

end Typewright
