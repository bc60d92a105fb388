/-
  Typewright/Proofs/Render/WireNames.lean
  =======================================
  **Names in data** — what the attributes of a definition say about its fields and
  variants.

  Whatever characters the names in the data have, the lines of a definition give all of
  them back, in order (`wireNames_survive`).  Each stands right above its field or
  variant: the attribute is one line, because a literal never spans two, and so
  indenting puts blanks before it and leaves it as it is.

  Other lines might look like attributes too, if a replaced convention puts line feeds
  into names.  The names made by the default convention cannot, as no attribute mark
  stands in them.
-/
import Typewright.Proofs.Render.Attributes
import Typewright.Proofs.Render.Variants
import Typewright.Proofs.Types.Boxes

namespace Typewright

/-! ### Structs -/

theorem wireNames_structDerive : wireNames structDerive = [] :=
  wireNames_derive (by decide) (by decide)

/-- What stands after the name in the attribute of a slot. -/
def Slot.setting (slot : Slot) : String :=
  (if slot.required then "" else ", skip_serializing_if = \"Option::is_none\"") ++ ")]"

theorem Slot.tag_eq (slot : Slot) :
    slot.tag = renameMark ++ Text.Literal.quote slot.name ++ slot.setting := by
  unfold Slot.tag Slot.setting renameMark
  rw [String.append_assoc]

theorem Slot.setting_closes (slot : Slot) :
    closesAttribute slot.setting.toList ∧ Text.OneLine slot.setting := by
  unfold Slot.setting
  rcases slot.required with _ | _
  · decide
  · decide

theorem wireName?_slot (slot : Slot) : wireName? ("    " ++ slot.tag) = some (some slot.name) := by
  rw [slot.tag_eq]
  exact wireName?_tag slot.setting_closes.1

theorem oneLine_slot (slot : Slot) : Text.OneLine slot.tag := by
  rw [slot.tag_eq]
  simp +decide [Text.Literal.oneLine_quote, slot.setting_closes.2]

/-- The line of a field below its attribute. -/
def Scope.slotLine (scope : Scope) (slot : Slot) : String :=
  "pub " ++ scope.slotName slot ++ ": " ++ (scope.slotType slot).value.text ++ ","

/-- A field with its attribute, as it stands in the body of a struct. -/
def Scope.slotText (scope : Scope) (slot : Slot) : String :=
  "    " ++ slot.tag ++ "\n" ++ Text.indent 1 (scope.slotLine slot)

namespace Scope

variable (scope : Scope)

theorem wireNames_slotText (slot : Slot) :
    wireNames (scope.slotText slot) =
      some slot.name :: wireNames (Text.indent 1 (scope.slotLine slot)) := by
  have hone : Text.OneLine ("    " ++ slot.tag) := by simp +decide [oneLine_slot]
  unfold slotText
  rw [wireNames_append, wireNames_line hone (wireName?_slot slot), List.singleton_append]

/-- Indenting a field keeps its attribute as it is. -/
theorem indent_declaration {field : Field} {slot : Slot} (htag : field.tag = slot.tag)
    (hname : field.name = scope.slotName slot) (htype : field.type = (scope.slotType slot).value) :
    Text.indent 1 field.declaration = scope.slotText slot := by
  have htext : slot.tag ≠ "" := by
    rw [slot.tag_eq, Slot.setting]
    intro hempty
    have hend := (String.append_eq_empty_iff.mp (String.append_eq_empty_iff.mp hempty).2).2
    revert hend
    decide
  have hline : scope.slotLine slot ≠ "" := by
    intro hempty
    have hend := (String.append_eq_empty_iff.mp hempty).2
    revert hend
    decide
  have hdeclaration : field.declaration = slot.tag ++ "\n" ++ scope.slotLine slot := by
    unfold Field.declaration slotLine
    rw [htag, hname, htype, if_neg htext]
    simp only [String.append_assoc]
  rw [hdeclaration, Text.indent_append htext (oneLine_slot slot) hline]
  rfl

/-- A struct has the items of its slots in its body. -/
theorem text_struct (site : Site) (constructors : Bool) :
    (StructHooks.render {} scope site constructors).text =
      heading (scope.name ++ " represents a " ++ scope.name ++ " model.") scope.model.description
          structDerive
        ++ braced ("pub struct " ++ scope.name) ((scope.slots site).map scope.slotText)
        ++ (if constructors then
            appended (constructorText scope.name (StructHooks.fields {} scope site).value)
          else "") := by
  have hitems : ((StructHooks.fields {} scope site).value.map Field.declaration).map (Text.indent 1) =
      (scope.slots site).map scope.slotText := by
    simp only [StructHooks.fields, Traced.all, List.map_map]
    refine List.map_congr_left fun slot _ => ?_
    exact scope.indent_declaration rfl rfl rfl
  simp only [StructHooks.render, Rendered.ofText, Traced.value_map, StructHooks.text, if_true,
    List.append_nil, hitems]

theorem declares_struct (site : Site) (constructors : Bool) :
    Declares (StructHooks.render {} scope site constructors).text
      ((scope.slots site).map scope.slotText) ((scope.slots site).map (·.name)) := by
  rw [text_struct]
  refine declares_definition _ _ _ _ wireNames_structDerive ?_
  intro slot
  rw [wireNames_slotText]
  exact List.mem_cons_self

end Scope

/-! ### Structs with names of the default convention -/

theorem TypeExpr.unmarked_text {isName : String → Prop} {type : TypeExpr} (h : type.Holdable isName)
    (hnames : ∀ name, isName name → Unmarked name) : Unmarked type.text := by
  induction h with
  | scalar type => cases type <;> decide
  | dynamic => decide
  | @list item _ ih =>
    change Unmarked ("Vec<" ++ item.text ++ ">")
    simp +decide [ih]
  | @map value _ ih =>
    change Unmarked ("std::collections::HashMap<String, " ++ value.text ++ ">")
    simp +decide [ih]
  | @model name hname =>
    change Unmarked ("Box<" ++ ("crate::" ++ name) ++ ">")
    simp +decide [hnames _ hname]
  | @sibling name hname =>
    change Unmarked ("Box<" ++ name ++ ">")
    simp +decide [hnames _ hname]

theorem TypeExpr.unmarked_unboxed {type : String} (h : Unmarked type) :
    Unmarked ((unboxed? type).getD type) := by
  unfold unboxed?
  split
  · next rest hletters =>
    split
    · -- what is in the box is part of the text
      intro hmem
      rw [Option.getD_some, String.toList_ofList] at hmem
      apply h
      rw [hletters]
      simp [List.dropLast_subset rest hmem]
    · exact h
  · exact h

/-- A constructor holds no marks if the names and types of the fields hold none. -/
theorem unmarked_constructorText {name : String} {fields : List Field} (hname : Unmarked name)
    (hfields : ∀ field ∈ fields, Unmarked field.name ∧ Unmarked field.type.text) :
    Unmarked (constructorText name fields) := by
  have hparameters : Unmarked (", ".intercalate ((fields.filter (·.required)).map Field.parameter)) := by
    apply unmarked_intercalate (by decide)
    intro text htext
    obtain ⟨field, hfield, rfl⟩ := List.mem_map.mp htext
    obtain ⟨hown, htype⟩ := hfields field (List.mem_of_mem_filter hfield)
    unfold Field.parameter
    simp +decide [hown, TypeExpr.unmarked_unboxed htype]
  have hsettings : Unmarked (String.join (fields.map fun field =>
      "            " ++ field.initializer ++ "\n")) := by
    apply unmarked_join
    intro text htext
    obtain ⟨field, hfield, rfl⟩ := List.mem_map.mp htext
    have hown := (hfields field hfield).1
    have hvalue : Unmarked field.initializer := by
      unfold Field.initializer
      split
      · simp +decide [hown]
      · split
        · simp +decide [hown]
        · simp +decide [hown]
    simp +decide [hvalue]
  unfold constructorText
  simp +decide only [unmarked_append, hname, hparameters, hsettings, and_self]

namespace Scope

variable (scope : Scope)

section

variable {scope : Scope} (hdefault : scope.rules.convention = {}) (hname : Text.IsName scope.name)
include hdefault hname

theorem unmarked_slot (slot : Slot) :
    Unmarked (scope.slotName slot) ∧ Unmarked (scope.slotType slot).value.text := by
  constructor
  · exact unmarked_of_isName (NameRules.isName_fieldName hdefault _ slot.name)
  · obtain ⟨shape, site, field, hcases⟩ := scope.givesField_slotType slot
    have hholds := (keptBySteps_holdsBoxes hdefault field).mapType shape site
    have hinner := TypeExpr.unmarked_text hholds.holdable fun name hgenerates =>
      unmarked_of_isName (hgenerates.isName hname)
    rcases hcases with heq | heq
    · rwa [heq]
    · rw [heq]
      change Unmarked ("Option<" ++ _ ++ ">")
      simp +decide [hinner]

theorem unmarked_slotLine (slot : Slot) : Unmarked (scope.slotLine slot) := by
  obtain ⟨hown, htype⟩ := unmarked_slot hdefault hname slot
  unfold slotLine
  simp +decide [hown, htype]

/-- A struct declares the names of its slots, and no others. -/
theorem wireNames_struct (site : Site) (constructors : Bool) :
    wireNames (StructHooks.render {} scope site constructors).text =
      ((scope.slots site).map (·.name)).map some := by
  have hown := unmarked_of_isName hname
  have hsummary : Unmarked ("/// " ++ (scope.name ++ " represents a " ++ scope.name ++ " model.")) := by
    simp +decide [hown]
  have hopening : Unmarked ("pub struct " ++ scope.name ++ " \x7b") := by
    simp +decide [hown]
  have hclosing : Unmarked ("\x7d" ++ (if constructors then
      appended (constructorText scope.name (StructHooks.fields {} scope site).value) else "")) := by
    rw [unmarked_append]
    refine ⟨by decide, ?_⟩
    split
    · apply unmarked_appended
      apply unmarked_constructorText hown
      intro field hfield
      simp only [StructHooks.fields, Traced.all, List.map_map, List.mem_map] at hfield
      obtain ⟨slot, -, rfl⟩ := hfield
      exact unmarked_slot hdefault hname slot
    · decide
  rw [text_struct]
  refine wireNames_definition_eq _ _ _ _ wireNames_structDerive (wireNames_eq_nil hsummary)
    (wireNames_eq_nil hopening) (wireNames_eq_nil hclosing) ?_
  intro slot _
  rw [wireNames_slotText, wireNames_eq_nil (unmarked_indent (unmarked_slotLine hdefault hname slot))]

end

end Scope

/-! ### Enumerations of literals -/

theorem wireNames_unitDerive : wireNames unitDerive = [] :=
  wireNames_derive (by decide) (by decide)

/-- A variant with its attribute, as it stands in the body of an enumeration. -/
def unitText (value : Json) (name : String) : String :=
  "    " ++ Variant.tag value.literalText ++ "\n    " ++ name ++ ","

theorem Variant.tag_eq (name : String) :
    Variant.tag name = renameMark ++ Text.Literal.quote name ++ ")]" := rfl

theorem wireName?_variant (name : String) :
    wireName? ("    " ++ Variant.tag name) = some (some name) := by
  have hclose : closesAttribute ")]".toList := by decide
  rw [Variant.tag_eq]
  exact wireName?_tag hclose

theorem oneLine_variant (name : String) : Text.OneLine (Variant.tag name) := by
  rw [Variant.tag_eq]
  simp +decide [Text.Literal.oneLine_quote]

namespace Scope

variable (scope : Scope)

/-- The variants for some literals, given their names. -/
def unitVariants (parts : List (Json × String)) : List Variant :=
  parts.map fun part => { scope.unitVariant part.1 with name := part.2 }

/-- The lines of a variant are its item. -/
theorem variantLines_unitVariant (value : Json) (name : String) :
    String.join ((EnumHooks.variantLines { scope.unitVariant value with name }).map (· ++ "\n")) =
      unitText value name ++ "\n" := by
  have htag : Variant.tag value.literalText ≠ "" := by
    intro hempty
    have hend := (String.append_eq_empty_iff.mp hempty).2
    revert hend
    decide
  have hindent := Text.indent_eq htag (oneLine_variant value.literalText)
  have hlines : EnumHooks.variantLines { scope.unitVariant value with name } =
      [Text.indent 1 (Variant.tag value.literalText), "    " ++ name ++ ","] := rfl
  have hbreak : "\n" ++ "    " = "\n    " := rfl
  rw [hlines, hindent]
  simp only [List.map_cons, List.map_nil, String.join_cons, String.join_nil, unitText, ← hbreak,
    String.append_assoc, String.append_empty]

theorem braced_unitVariants (opening : String) (parts : List (Json × String)) :
    braced opening ((scope.unitVariants parts).flatMap EnumHooks.variantLines) =
      braced opening (parts.map fun part => unitText part.1 part.2) := by
  have hjoin : String.join (((scope.unitVariants parts).flatMap EnumHooks.variantLines).map (· ++ "\n")) =
      String.join ((parts.map fun part => unitText part.1 part.2).map (· ++ "\n")) := by
    induction parts with
    | nil => rfl
    | cons part parts ih =>
      have hpart := scope.variantLines_unitVariant part.1 part.2
      simp only [unitVariants, List.map_cons, List.flatMap_cons, List.map_append, String.join_append,
        String.join_cons] at ih ⊢
      rw [hpart, ih]
  unfold braced
  rw [hjoin]

theorem variants_eq (huniform : scope.model.isUniformEnum) :
    EnumHooks.variants {} scope true = scope.model.members.map scope.unitVariant := by
  have hmembers := Node.enumMembers_of_members (Node.members_ne_nil_of_isUniformEnum huniform)
  unfold EnumHooks.variants
  rw [hmembers]
  apply List.ext_getElem
  · simp
  · intro index _ _
    simp [memberVariant]

/-- An enumeration of literals has the items of its literals in its body. -/
theorem text_enum (huniform : scope.model.isUniformEnum) (defaults : Bool) :
    ∃ names : List String, names.length = scope.model.members.length ∧
      (∀ name ∈ names, ∃ value ∈ scope.model.members, name = (scope.unitVariant value).name ∨
        ∃ n : Nat, name = (scope.unitVariant value).name ++ toString n) ∧
      let parts := scope.model.members.zip names
      (EnumHooks.render {} scope defaults).text =
        heading (scope.name ++ " enum of type: " ++ scope.model.typeDescription)
            scope.model.description unitDerive
          ++ braced ("pub enum " ++ scope.name) (parts.map fun part => unitText part.1 part.2)
          ++ (if defaults then
              appended (EnumHooks.defaultText scope.name (scope.unitVariants parts)) else "") := by
  obtain ⟨names, hlength, heq, hnames⟩ :=
    Variant.renamed_map scope.unitVariant scope.model.members 0 []
  refine ⟨names, hlength, hnames, ?_⟩
  have hpayload : (scope.unitVariants (scope.model.members.zip names)).all (·.payload.isNone) := by
    simp [unitVariants, unitVariant]
  have hextra : appended "" = "" := rfl
  have hvariants : Variant.renamed 0 [] (EnumHooks.variants {} scope scope.model.isUniformEnum) =
      scope.unitVariants (scope.model.members.zip names) := by
    rw [huniform, scope.variants_eq huniform]
    exact heq
  simp only [EnumHooks.render, hvariants, Rendered.ofText, Traced.value_pure, EnumHooks.text,
    hpayload, if_true, hextra, String.append_empty, braced_unitVariants]

theorem wireNames_unitText (value : Json) (name : String) :
    wireNames (unitText value name) =
      some value.literalText :: wireNames ("    " ++ name ++ ",") := by
  have hone : Text.OneLine ("    " ++ Variant.tag value.literalText) := by
    simp +decide [oneLine_variant]
  have hbreak : "\n    " = "\n" ++ "    " := rfl
  have hsplit : unitText value name =
      "    " ++ Variant.tag value.literalText ++ "\n" ++ ("    " ++ name ++ ",") := by
    rw [unitText, hbreak]
    simp only [String.append_assoc]
  rw [hsplit, wireNames_append, wireNames_line hone (wireName?_variant value.literalText),
    List.singleton_append]

theorem literalTexts_zip {values : List Json} {names : List String}
    (hlength : names.length = values.length) :
    (values.zip names).map (fun part => part.1.literalText) = values.map Json.literalText := by
  have hfirst : (values.zip names).map Prod.fst = values := List.map_fst_zip (by omega)
  have hmap := congrArg (List.map Json.literalText) hfirst
  rw [List.map_map] at hmap
  exact hmap

theorem declares_enum (huniform : scope.model.isUniformEnum) (defaults : Bool) :
    ∃ names : List String, names.length = scope.model.members.length ∧
      Declares (EnumHooks.render {} scope defaults).text
        ((scope.model.members.zip names).map fun part => unitText part.1 part.2)
        (scope.model.members.map Json.literalText) := by
  obtain ⟨names, hlength, -, htext⟩ := scope.text_enum huniform defaults
  refine ⟨names, hlength, ?_⟩
  rw [htext, ← literalTexts_zip hlength]
  refine declares_definition _ _ _ _ wireNames_unitDerive ?_
  intro part
  rw [wireNames_unitText]
  exact List.mem_cons_self

theorem unmarked_defaultText (hname : Unmarked scope.name) {names : List String} (values : List Json)
    (hnames : ∀ name ∈ names, Unmarked name) :
    Unmarked (EnumHooks.defaultText scope.name (scope.unitVariants (values.zip names))) := by
  unfold EnumHooks.defaultText
  split
  · decide
  · next variant hvariant =>
    have hmem : variant ∈ scope.unitVariants (values.zip names) := by
      cases hfind : (scope.unitVariants (values.zip names)).find? (·.isDefault) with
      | none =>
        rw [hfind] at hvariant
        exact List.mem_of_mem_head? hvariant
      | some found =>
        rw [hfind] at hvariant
        obtain rfl := Option.some.inj hvariant
        exact List.mem_of_find?_eq_some hfind
    obtain ⟨part, hpart, rfl⟩ := List.mem_map.mp hmem
    have hvariantName := hnames part.2 (List.of_mem_zip hpart).2
    have hvalue : ({ scope.unitVariant part.1 with name := part.2 } : Variant).constructor =
        "Self::" ++ part.2 := rfl
    rw [hvalue]
    simp +decide [hname, hvariantName]

section

variable {scope : Scope} (hdefault : scope.rules.convention = {}) (hname : Text.IsName scope.name)
include hdefault hname

/-- An enumeration of literals declares their texts, and no others. -/
theorem wireNames_enum (huniform : scope.model.isUniformEnum) (defaults : Bool)
    (htype : '\n' ∉ scope.model.typeDescription.toList) :
    wireNames (EnumHooks.render {} scope defaults).text =
      (scope.model.members.map Json.literalText).map some := by
  obtain ⟨names, hlength, hcases, htext⟩ := scope.text_enum huniform defaults
  have hown := unmarked_of_isName hname
  have hnames : ∀ name ∈ names, Unmarked name := by
    intro name hmem
    obtain ⟨value, -, heq⟩ := hcases name hmem
    have hvariant := unmarked_of_isName (isName_unitVariant hdefault value)
    rcases heq with rfl | ⟨n, rfl⟩
    · exact hvariant
    · rw [unmarked_append]
      exact ⟨hvariant, unmarked_of_isName (Text.isName_toString n)⟩
  have hsummary : '\n' ∉ (scope.name ++ " enum of type: " ++ scope.model.typeDescription).toList := by
    rw [String.toList_append, String.toList_append, List.mem_append, List.mem_append]
    rintro ((hfirst | hmiddle) | hlast)
    · exact absurd (hname '\n' hfirst) (by decide)
    · revert hmiddle
      decide
    · exact htype hlast
  have hopening : Unmarked ("pub enum " ++ scope.name ++ " \x7b") := by
    simp +decide [hown]
  have hclosing : Unmarked ("\x7d" ++ (if defaults then appended (EnumHooks.defaultText scope.name
      (scope.unitVariants (scope.model.members.zip names))) else "")) := by
    rw [unmarked_append]
    refine ⟨by decide, ?_⟩
    split
    · exact unmarked_appended (scope.unmarked_defaultText hown _ hnames)
    · decide
  rw [htext, ← literalTexts_zip hlength]
  refine wireNames_definition_eq _ _ _ _ wireNames_unitDerive (wireNames_summary hsummary)
    (wireNames_eq_nil hopening) (wireNames_eq_nil hclosing) ?_
  intro part hpart
  have hline : Unmarked ("    " ++ part.2 ++ ",") := by
    simp +decide [hnames part.2 (List.of_mem_zip hpart).2]
  rw [wireNames_unitText, wireNames_eq_nil hline]

end

end Scope

/-! ### All definitions -/

/-- **Names in data survive.**  A struct has for every slot, the declared properties first,
    a line with an attribute that is read as the name of the slot, right above its field;
    indenting has not touched it.  An enumeration of literals has such a line for every
    literal.  With names of the default convention there are no other such lines. -/
theorem wireNames_survive (options : Options) (registry : Registry) (hhooks : options.hooks = {}) :
    (∀ site : Site, site.node.kind = .object →
      let scope := Scope.ofModel options.rules registry site.node
      let names := (scope.slots site).map (·.name)
      let text := (options.renderModel registry site).text
      site.properties.map (·.1) <+: names ∧
      Declares text ((scope.slots site).map scope.slotText) names ∧
      (options.rules.convention = {} → wireNames text = names.map some)) ∧
    (∀ dependency : Dependency, dependency.kind = .record →
      let scope := (Definition.side dependency).scope options registry
      let names := (scope.slots dependency.site).map (·.name)
      let text := (options.renderDependency registry dependency).text
      dependency.site.properties.map (·.1) <+: names ∧
      Declares text ((scope.slots dependency.site).map scope.slotText) names ∧
      (options.rules.convention = {} → Text.IsName dependency.typeName →
        wireNames text = names.map some)) ∧
    ∀ site : Site, site.node.kind = .enumeration → site.node.isUniformEnum →
      let literals := site.node.members.map Json.literalText
      let text := (options.renderModel registry site).text
      (∃ names : List String, names.length = literals.length ∧
        Declares text ((site.node.members.zip names).map fun part => unitText part.1 part.2)
          literals) ∧
      (options.rules.convention = {} → '\n' ∉ site.node.typeDescription.toList →
        wireNames text = literals.map some) := by
  have hfront : ∀ (scope : Scope) (site : Site),
      site.properties.map (·.1) <+: (scope.slots site).map (·.name) := by
    intro scope site
    unfold Scope.slots
    rw [List.map_append, List.map_append, List.map_map, List.append_assoc]
    exact List.prefix_append _ _
  refine ⟨?_, ?_, ?_⟩
  · intro site hkind scope names text
    have htext : text = (StructHooks.render {} scope site options.constructors).text := by
      simp only [text, Options.renderModel, hkind, Options.renderStruct, hhooks, scope]
    refine ⟨hfront scope site, ?_, ?_⟩
    · rw [htext]
      exact scope.declares_struct site options.constructors
    · intro hdefault
      rw [htext]
      exact Scope.wireNames_struct hdefault (NameRules.isName_typeName hdefault _ _) site _
  · intro dependency hkind scope names text
    have htext : text = (StructHooks.render {} scope dependency.site options.constructors).text := by
      simp only [text, Options.renderDependency, hkind, Options.renderRecord, hhooks, scope,
        Definition.scope]
    refine ⟨hfront scope dependency.site, ?_, ?_⟩
    · rw [htext]
      exact scope.declares_struct dependency.site options.constructors
    · intro hdefault hname
      rw [htext]
      refine Scope.wireNames_struct ?_ ?_ dependency.site _
      · rwa [Definition.scope_rules]
      · simp only [scope, Definition.scope, hkind]
        exact hname
  · intro site hkind huniform literals text
    have htext : text =
        (EnumHooks.render {} (Scope.ofModel options.rules registry site.node) options.enumDefaults).text := by
      simp only [text, Options.renderModel, hkind, Options.renderEnum, hhooks]
    constructor
    · obtain ⟨names, hlength, hdeclares⟩ :=
        (Scope.ofModel options.rules registry site.node).declares_enum huniform options.enumDefaults
      rw [htext]
      exact ⟨names, hlength.trans (List.length_map _).symm, hdeclares⟩
    · intro hdefault htype
      rw [htext]
      exact Scope.wireNames_enum hdefault (NameRules.isName_typeName hdefault _ _) huniform _ htype

/-- A speech, with names that hold quotes, line ends and a mark above a letter. -/
def speech : Node where
  id := some "Speech"
  type := some (.single "object")
  properties := some [("say \"hi\"\\", {}), ("two\nlines\r", {}), ("cafe\u0301\x07", {})]

/-- Tones of a speech, some of them spread over lines. -/
def tones : Node where
  id := some "Tone"
  literals := some [.string "loud\n#[serde(rename = \"low\")]", .string "\t\"calm\"\x00"]

theorem wireNames_survive_speech :
    (speech.kind = .object ∧
      wireNames (({} : Options).renderModel {} (.root (.entry "Speech") speech)).text =
        [some "say \"hi\"\\", some "two\nlines\r", some "cafe\u0301\x07"]) ∧
    (tones.kind = .enumeration ∧ tones.isUniformEnum ∧
      wireNames (({} : Options).renderModel {} (.root (.entry "Tone") tones)).text =
        [some "loud\n#[serde(rename = \"low\")]", some "\t\"calm\"\x00"]) := by
  obtain ⟨hstructs, -, henums⟩ := wireNames_survive {} {} rfl
  have hspeech : speech.kind = .object := by decide
  have htones : tones.kind = .enumeration := by decide
  have huniform : tones.isUniformEnum := by decide
  refine ⟨⟨hspeech, ?_⟩, htones, huniform, ?_⟩
  · rw [(hstructs (.root (.entry "Speech") speech) hspeech).2.2 rfl]
    rfl
  · rw [(henums (.root (.entry "Tone") tones) htones huniform).2 rfl (by decide)]
    rfl

end Typewright
