/-
  Typewright/Proofs/Render/Layout.lean
  ====================================
  **Definitions line by line** — what stands where in the text of a definition.

  A definition has a line that says what it is, the lines of its description, a line of
  derived traits, one that opens it, the lines of its items and what closes it.  Items
  are indented, so the last line that opens a type in the text of a model is that of the
  model itself (`getLast?_definedTypes`).  A text therefore says which model it is of.
-/
import Typewright.Proofs.Render.Attributes
import Typewright.Proofs.Render.Outputs
import Typewright.Proofs.Render.Variants

namespace Typewright

/-! ### A reader of type names -/

/-- The name of the type that a line opens, if it opens one. -/
def definedType? (line : String) : Option String :=
  (Text.after? "pub struct " line <|> Text.after? "pub enum " line).map fun rest =>
    String.ofList (rest.takeWhile Text.isNameChar)

/-- The names of the types that the lines of a text open, in order. -/
def definedTypes (text : String) : List String := (Text.lines text).filterMap definedType?

theorem definedTypes_endLine (text : String) :
    definedTypes (Text.endLine text) = definedTypes text :=
  Text.filterMap_lines_endLine rfl text

theorem definedType?_of_isInner {line : String} (hline : Text.IsInner line) :
    definedType? line = none := by
  have hblank : ∀ d ∈ line.toList.head?, d ≠ 'p' := by
    intro d hd
    rw [hline d hd]
    decide
  have hstruct : Text.after? "pub struct " line = none := Text.after?_eq_none rfl hblank
  have henum : Text.after? "pub enum " line = none := Text.after?_eq_none rfl hblank
  unfold definedType?
  rw [hstruct, henum]
  rfl

/-- The line that opens a type is read as its name. -/
theorem definedType?_opening {opening name : String} (hname : Text.IsName name)
    (hopening : opening = "pub struct " ++ name ∨ opening = "pub enum " ++ name) :
    definedType? (opening ++ " \x7b") = some name := by
  have hstop : " \x7b".toList.takeWhile Text.isNameChar = [] := by decide
  have hrest : String.ofList ((name ++ " \x7b").toList.takeWhile Text.isNameChar) = name := by
    rw [String.toList_append, List.takeWhile_append_of_pos hname, hstop, List.append_nil,
      String.ofList_toList]
  unfold definedType?
  rcases hopening with rfl | rfl
  · rw [String.append_assoc, Text.after?_append]
    exact congrArg some hrest
  · have hstruct : Text.after? "pub struct " ("pub enum " ++ (name ++ " \x7b")) = none :=
      Text.after?_append_eq_none (by decide) (by decide) _
    rw [String.append_assoc, hstruct, Text.after?_append]
    exact congrArg some hrest

/-! ### The text of a model -/

/-- A definition of which all items are indented opens its type last. -/
theorem getLast?_definedTypes_definition (summary : String) (description : Option String)
    (derive : String) {opening name : String} (hname : Text.IsName name)
    (hopening : opening = "pub struct " ++ name ∨ opening = "pub enum " ++ name)
    {items : List String} (hitems : ∀ item ∈ items, ∀ line ∈ Text.lines item, Text.IsInner line) :
    (definedTypes (heading summary description derive ++ braced opening items)).getLast? =
      some name := by
  obtain ⟨docs, -, hlines⟩ := lines_definition summary description derive opening items ""
  rw [String.append_empty] at hlines
  have hone : Text.OneLine (opening ++ " \x7b") := by
    have hown := Text.oneLine_of_isName hname
    rcases hopening with rfl | rfl
    · simp +decide [hown]
    · simp +decide [hown]
  have hbody : (items.flatMap Text.lines).filterMap definedType? = [] := by
    rw [List.filterMap_eq_nil_iff]
    intro line hline
    obtain ⟨item, hitem, hmem⟩ := List.mem_flatMap.mp hline
    exact definedType?_of_isInner (hitems item hitem line hmem)
  have hclose : (Text.lines ("\x7d" ++ "")).filterMap definedType? = [] := by decide
  unfold definedTypes
  rw [hlines, Text.lines_eq_singleton hone.1]
  simp only [List.filterMap_append, hbody, hclose]
  simp [definedType?_opening hname hopening]

section

variable {scope : Scope} (hname : Text.IsName scope.name)
include hname

theorem getLast?_definedTypes_struct (site : Site) :
    (definedTypes (StructHooks.render {} scope site false).text).getLast? = some scope.name := by
  simp only [StructHooks.render, Rendered.ofText, Traced.value_map, StructHooks.text, if_true,
    List.append_nil, Bool.false_eq_true, if_false, String.append_empty]
  refine getLast?_definedTypes_definition _ _ _ hname (Or.inl rfl) ?_
  intro item hitem line hline
  obtain ⟨declaration, -, rfl⟩ := List.mem_map.mp hitem
  exact Text.isInner_of_mem_lines_indent hline

theorem getLast?_definedTypes_enum (hdefault : scope.rules.convention = {}) :
    (definedTypes (EnumHooks.render {} scope false).text).getLast? = some scope.name := by
  have hextra : appended "" = "" := rfl
  simp only [EnumHooks.render, Rendered.ofText, Traced.value_pure, EnumHooks.text, hextra,
    Bool.false_eq_true, if_false, String.append_empty]
  refine getLast?_definedTypes_definition _ _ _ hname (Or.inr rfl) ?_
  intro item hitem line hline
  obtain ⟨variant, hvariant, hmem⟩ := List.mem_flatMap.mp hitem
  have hplain : variant.Plain := by
    refine Variant.plain_of_mem_renamed ?_ hvariant
    intro source hsource
    obtain ⟨index, hindex, rfl⟩ := List.mem_mapIdx.mp hsource
    exact Scope.plain_memberVariant hdefault _
  unfold EnumHooks.variantLines at hmem
  rcases List.mem_append.mp hmem with hattribute | hdeclaration
  · obtain ⟨tag, -, rfl⟩ := List.mem_map.mp hattribute
    exact Text.isInner_of_mem_lines_indent hline
  · obtain rfl := List.mem_singleton.mp hdeclaration
    have hone : Text.OneLine ("    " ++ variant.declaration ++ ",") := by
      simp +decide [hplain.oneLine_declaration]
    rw [Text.lines_eq_singleton hone.1] at hline
    obtain rfl := List.mem_singleton.mp hline
    have hstart : ("    " ++ variant.declaration ++ ",").toList.head? = some ' ' := by
      rw [String.append_assoc, String.toList_append]
      rfl
    intro c hc
    rw [hstart] at hc
    exact (Option.mem_some_iff.mp hc).symm

end

namespace Options

variable {options : Options} {registry : Registry} (hhooks : options.hooks = {})
  (hdefault : options.rules.convention = {}) (hconstructors : options.constructors = false)
  (hdefaults : options.enumDefaults = false)
include hhooks hdefault hconstructors hdefaults

/-- The definition of a model opens the type of the model last. -/
theorem getLast?_definedTypes_renderModel {site : Site}
    (hname : (options.renderModel registry site).name ≠ "") :
    (definedTypes (options.renderModel registry site).text).getLast? =
      some (options.renderModel registry site).name := by
  have hscope : Text.IsName (Scope.ofModel options.rules registry site.node).name :=
    NameRules.isName_typeName hdefault _ _
  have hrendered := isRendered_of_name_ne_empty hname
  have hown := name_renderModel options registry site hrendered
  rw [hown]
  unfold renderModel renderStruct renderEnum
  cases hkind : site.node.kind with
  | object =>
    simp only [hhooks, hconstructors]
    exact getLast?_definedTypes_struct hscope site
  | enumeration | union =>
    simp only [hhooks, hdefaults]
    exact getLast?_definedTypes_enum hscope hdefault
  | array => exact absurd hkind hrendered.2
  | primitive => exact absurd hkind hrendered.1

/-- The text of a model says which model it is of. -/
theorem getLast?_definedTypes {site : Site} (hname : (options.renderModel registry site).name ≠ "") :
    (definedTypes (options.renderComplete registry site).text).getLast? =
      some (options.renderModel registry site).name := by
  have hown := getLast?_definedTypes_renderModel hhooks hdefault hconstructors hdefaults hname
  unfold definedTypes at hown ⊢
  rw [(renderComplete_eq options registry site).1, blocks,
    Text.filterMap_lines_paragraphs rfl, List.map_append, List.flatMap_append, List.getLast?_append]
  simp [hown]

end Options

end Typewright
