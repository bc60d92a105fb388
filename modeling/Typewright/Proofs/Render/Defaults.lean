/-
  Typewright/Proofs/Render/Defaults.lean
  ======================================
  **Default values** — which of the types that a struct asks for have one.

  Every struct derives a default value, so every type in a required field has to
  have one.  Structs do, since they derive it as well; an enumeration has one only
  if the options ask for default values of enumerations.  Where they do, a struct
  never asks an enumeration in vain (`default_of_boxed_enumeration`).
-/
import Typewright.Proofs.Render.Outputs

namespace Typewright

/-! ### Texts -/

/-- A text that stands in another one stands there byte by byte. -/
theorem bytes_of_infix_toList {part text : String} (h : part.toList <:+: text.toList) :
    part.toByteArray.data.toList <:+: text.toByteArray.data.toList := by
  obtain ⟨before, after, heq⟩ := h
  have htext : text = String.ofList before ++ part ++ String.ofList after := by
    apply String.toList_injective
    simp only [String.toList_append, String.toList_ofList, heq]
  refine ⟨(String.ofList before).toByteArray.data.toList,
    (String.ofList after).toByteArray.data.toList, ?_⟩
  rw [htext]
  simp only [String.toByteArray_append, ByteArray.data_append, Array.toList_append]

theorem appended_of_ne_empty {text : String} (hne : text ≠ "") : appended text = "\n\n" ++ text :=
  if_neg hne

/-! ### Variants -/

/-- A node that is rendered as an enumeration has members. -/
theorem Node.enumMembers_ne_nil {node : Node}
    (hkind : node.kind = .enumeration ∨ node.kind = .union) : node.enumMembers ≠ [] := by
  unfold Node.enumMembers
  by_cases hmembers : node.members.isEmpty
  · rw [if_pos hmembers]
    intro hnil
    have hnames : node.concreteNames = [] := List.map_eq_nil_iff.mp hnil
    unfold Node.kind at hkind
    simp only [hmembers, hnames, Bool.not_true, Bool.false_eq_true, if_false, List.length_nil,
      Nat.not_lt_zero] at hkind
    rcases hkind with hkind | hkind <;> repeat' split at hkind
    all_goals cases hkind
  · rw [if_neg hmembers]
    intro hnil
    rw [List.map_eq_nil_iff.mp hnil] at hmembers
    exact hmembers rfl

theorem Variant.length_renamed (index : Nat) (seen : List String) (variants : List Variant) :
    (Variant.renamed index seen variants).length = variants.length := by
  induction variants generalizing index seen with
  | nil => rfl
  | cons variant rest ih => simp only [Variant.renamed, List.length_cons, ih]

namespace EnumHooks

/-- The variants of an enumeration, as they are written. -/
def written (hooks : EnumHooks) (scope : Scope) : List Variant :=
  Variant.renamed 0 [] (hooks.variants scope scope.model.isUniformEnum)

theorem written_ne_nil (hooks : EnumHooks) (scope : Scope)
    (hmembers : scope.model.enumMembers ≠ []) : hooks.written scope ≠ [] := by
  intro hnil
  have hlength := congrArg List.length hnil
  rw [written, Variant.length_renamed, variants, List.length_mapIdx] at hlength
  exact hmembers (List.eq_nil_of_length_eq_zero hlength)

/-- Where there are variants, one of them is the default value. -/
theorem exists_defaultText (name : String) {variants : List Variant} (hne : variants ≠ []) :
    ∃ variant ∈ variants, defaultText name variants =
      "impl Default for " ++ name ++ " \x7b\n    fn default() -> Self \x7b\n        "
        ++ variant.constructor ++ "\n    \x7d\n\x7d" := by
  obtain ⟨first, rest, rfl⟩ := List.exists_cons_of_ne_nil hne
  cases hdeclared : (first :: rest).find? (·.isDefault) with
  | none => exact ⟨first, List.mem_cons_self, by simp [defaultText, hdeclared]⟩
  | some variant =>
    exact ⟨variant, List.mem_of_find?_eq_some hdeclared, by simp [defaultText, hdeclared]⟩

theorem defaultText_ne_empty (name : String) {variants : List Variant} (hne : variants ≠ []) :
    defaultText name variants ≠ "" := by
  obtain ⟨variant, -, heq⟩ := exists_defaultText name hne
  rw [heq]
  simp

/-- A default value comes after all else. -/
theorem text_eq (hooks : EnumHooks) (scope : Scope) (defaults : Bool) (variants : List Variant) :
    hooks.text scope defaults variants = hooks.text scope false variants ++
      if defaults then appended (defaultText scope.name variants) else "" := by
  cases defaults with
  | false => simp
  | true => simp [text, String.append_assoc]

/-- The line of traits above some variants. -/
def traits (variants : List Variant) : String :=
  if variants.all (·.payload.isNone) then unitDerive else payloadDerive

/-- An enumeration without more to it is the lines of its variants. -/
theorem text_render (scope : Scope) :
    (EnumHooks.render {} scope false).text =
      heading (scope.name ++ " enum of type: " ++ scope.model.typeDescription)
          scope.model.description (traits (written {} scope))
        ++ braced ("pub enum " ++ scope.name) ((written {} scope).flatMap variantLines) := by
  have hextra : appended "" = "" := rfl
  simp only [render, Rendered.ofText, Traced.value_pure, text, hextra, Bool.false_eq_true, if_false,
    String.append_empty, traits]
  rfl

end EnumHooks

/-! ### Structs -/

/-- The text derives the traits of a struct, a default value among them. -/
inductive DerivesDefault : String → Prop where
  | of (before after : String) : DerivesDefault (before ++ structDerive ++ after)

theorem derivesDefault_heading (summary : String) (description : Option String) (rest : String) :
    DerivesDefault (heading summary description structDerive ++ rest) := by
  have htext : heading summary description structDerive ++ rest =
      "/// " ++ summary ++ "\n" ++ Text.docLines description ++ structDerive
        ++ ("\n" ++ rest) := by
    simp only [heading, String.append_assoc]
  rw [htext]
  exact .of _ _

theorem StructHooks.derivesDefault_render (hooks : StructHooks) (scope : Scope) (site : Site)
    (constructors : Bool) : DerivesDefault (hooks.render scope site constructors).text := by
  simp only [render, Rendered.ofText, Traced.value_map, text, String.append_assoc]
  exact derivesDefault_heading _ _ _

theorem Scope.derivesDefault_tupleText (scope : Scope) (dependency : Dependency) :
    DerivesDefault (scope.tupleText dependency).value := by
  simp only [tupleText, Traced.value_bind, Traced.value_pure, String.append_assoc]
  exact derivesDefault_heading _ _ _

/-- What has fields or slots derives a default value. -/
theorem Definition.derivesDefault_render {options : Options} {registry : Registry}
    (hhooks : options.hooks = {}) {definition : Definition}
    (htypes : (definition.types options registry).value ≠ []) :
    DerivesDefault (definition.render options registry).text := by
  cases definition with
  | model site =>
    have hkind : site.node.kind = .object := by
      by_contra hother
      apply htypes
      simp only [types, hother, if_false, Traced.value_pure]
    simp only [render, Options.renderModel, hkind]
    exact StructHooks.derivesDefault_render _ _ _ _
  | side dependency =>
    simp only [render, Options.renderDependency]
    cases dependency.kind with
    | tuple =>
      simp only [Options.renderTuple, TupleHooks.render, Rendered.ofText, hhooks]
      exact Scope.derivesDefault_tupleText _ _
    | record => exact StructHooks.derivesDefault_render _ _ _ _

/-! ### Enumerations -/

namespace Options

variable {options : Options} {registry : Registry} {site : Site}

/-- The definition of an enumeration needs nothing on the side. -/
theorem renderComplete_enumeration (options : Options) (registry : Registry) {site : Site}
    (hkind : site.node.kind = .enumeration ∨ site.node.kind = .union) :
    (options.renderComplete registry site).text = (options.renderEnum registry site.node).text := by
  unfold renderComplete renderModel
  rcases hkind with hkind | hkind <;> simp only [hkind]
  · rw [if_pos]
    simp [renderEnum, EnumHooks.render, Rendered.ofText, Traced.dependencies, Traced.addTo]
  · rw [if_pos]
    simp [renderEnum, EnumHooks.render, Rendered.ofText, Traced.dependencies, Traced.addTo]

/-- The variants of a model that is rendered as an enumeration. -/
def variants (options : Options) (registry : Registry) (model : Node) : List Variant :=
  options.hooks.enums.written (.ofModel options.rules registry model)

/-- An enumeration is written as the lines of its variants, and a default value below
    them if the options ask for one. -/
theorem text_renderEnum (registry : Registry) (hhooks : options.hooks.enums = {}) (model : Node) :
    let scope := Scope.ofModel options.rules registry model
    let variants := options.variants registry model
    (options.renderEnum registry model).text =
      heading (scope.name ++ " enum of type: " ++ model.typeDescription) model.description
          (EnumHooks.traits variants)
        ++ braced ("pub enum " ++ scope.name) (variants.flatMap EnumHooks.variantLines)
        ++ (if options.enumDefaults then appended (EnumHooks.defaultText scope.name variants)
          else "") := by
  intro scope variants
  have hvariants : variants = EnumHooks.written {} scope := by
    simp only [variants, Options.variants, hhooks]
    rfl
  rw [hvariants, renderEnum, hhooks]
  change EnumHooks.text {} scope options.enumDefaults (EnumHooks.written {} scope) = _
  rw [EnumHooks.text_eq]
  exact congrArg (· ++ _) (EnumHooks.text_render scope)

theorem variants_ne_nil (options : Options) (registry : Registry) {model : Node}
    (hmembers : model.enumMembers ≠ []) : options.variants registry model ≠ [] :=
  options.hooks.enums.written_ne_nil (.ofModel options.rules registry model) hmembers

/-- **Defaults that are asked for.**  Whatever boxes an enumeration in a required field
    or in a slot derives a default value.  The enumeration is among the outputs, and its
    text is that of its variants, followed by a default value just if the options ask
    for default values of enumerations. -/
theorem default_of_boxed_enumeration (options : Options) (registry : Registry)
    (hhooks : options.hooks = {}) {definition : Definition} {site : Site}
    (hsite : site ∈ options.outputs registry)
    (hkind : site.node.kind = .enumeration ∨ site.node.kind = .union)
    (hfield : .boxed (.model (options.renderModel registry site).name) ∈
      (definition.types options registry).value) :
    let model := site.node
    let variants := options.variants registry model
    let source := (options.renderComplete registry site).toSource
    DerivesDefault (definition.render options registry).text ∧
      source ∈ options.generateComplete registry ∧
      source.name = (options.renderModel registry site).name ∧
      ∃ variant ∈ variants,
        source.text =
          heading (source.name ++ " enum of type: " ++ model.typeDescription) model.description
              (EnumHooks.traits variants)
            ++ braced ("pub enum " ++ source.name) (variants.flatMap EnumHooks.variantLines)
            ++ if options.enumDefaults then
              "\n\n" ++ ("impl Default for " ++ source.name
                ++ " \x7b\n    fn default() -> Self \x7b\n        " ++ variant.constructor
                ++ "\n    \x7d\n\x7d")
            else "" := by
  intro model variants source
  have hname : source.name = (options.renderModel registry site).name :=
    name_renderComplete options registry site
  have hrendered := isRendered_of_name_ne_empty (mem_outputs_iff.mp hsite).2
  have hscope : source.name = (Scope.ofModel options.rules registry model).name :=
    hname.trans (name_renderModel options registry site hrendered)
  have hvariants : variants ≠ [] :=
    options.variants_ne_nil registry (Node.enumMembers_ne_nil hkind)
  obtain ⟨variant, hvariant, hdefault⟩ := EnumHooks.exists_defaultText source.name hvariants
  refine ⟨Definition.derivesDefault_render hhooks (List.ne_nil_of_mem hfield), ?_, hname,
    variant, hvariant, ?_⟩
  · rw [generateComplete_eq]
    exact List.mem_map_of_mem hsite
  · have htext : source.text = (options.renderEnum registry model).text :=
      renderComplete_enumeration options registry hkind
    rw [htext, text_renderEnum registry (by rw [hhooks]) model, ← hscope,
      appended_of_ne_empty (EnumHooks.defaultText_ne_empty source.name hvariants), hdefault]

def theme : Node where
  id := some "Theme"
  type := some (.single "string")
  literals := some [.string "light", .string "dark"]

/-- A screen has a theme, always. -/
def screen : Node where
  id := some "Screen"
  type := some (.single "object")
  properties := some [("theme", .refer "Theme")]
  required := ["theme"]

def screens : Registry := ⟨[("Screen", screen), ("Theme", theme)]⟩

/-- With default values of enumerations, that of the theme is there. -/
theorem default_of_boxed_enumeration_screens :
    let options : Options := { enumDefaults := true }
    let site := Site.root (.entry "Theme") theme
    let definition := Definition.model (.root (.entry "Screen") screen)
    let variants := options.variants screens theme
    let source := (options.renderComplete screens site).toSource
    site ∈ options.outputs screens ∧ site.node.kind = .enumeration ∧
      .boxed (.model "Theme") ∈ (definition.types options screens).value ∧
      DerivesDefault (definition.render options screens).text ∧
      source ∈ options.generateComplete screens ∧ source.name = "Theme" ∧
      ∃ variant ∈ variants,
        source.text =
          heading "Theme enum of type: String" none (EnumHooks.traits variants)
            ++ braced "pub enum Theme" (variants.flatMap EnumHooks.variantLines)
            ++ ("\n\n" ++ ("impl Default for Theme"
              ++ " \x7b\n    fn default() -> Self \x7b\n        " ++ variant.constructor
              ++ "\n    \x7d\n\x7d")) := by
  intro options site definition variants source
  have hsite : site ∈ options.outputs screens :=
    mem_outputs_iff.mpr ⟨List.mem_cons_of_mem _ List.mem_cons_self, by decide +kernel⟩
  have hname : (options.renderModel screens site).name = "Theme" := by decide +kernel
  have hfield : .boxed (.model "Theme") ∈ (definition.types options screens).value := by
    decide +kernel
  have hkind : site.node.kind = .enumeration := by decide +kernel
  obtain ⟨hderives, hout, hsource, variant, hvariant, htext⟩ :=
    default_of_boxed_enumeration options screens rfl hsite (Or.inl hkind) (by rwa [hname])
  rw [hname] at hsource
  have hsummary : "Theme" ++ " enum of type: " ++ site.node.typeDescription =
      "Theme enum of type: String" := by decide +kernel
  have hopening : "pub enum " ++ "Theme" = "pub enum Theme" := by decide +kernel
  have hdefault : "impl Default for " ++ "Theme" = "impl Default for Theme" := by decide +kernel
  rw [hsource, hsummary, hopening, hdefault, if_pos rfl] at htext
  exact ⟨hsite, hkind, hfield, hderives, hout, hsource, variant, hvariant, htext⟩

/-- Under the default options the screen boxes its theme, and derives a default value
    that the theme does not have. -/
theorem screens_ask_in_vain :
    let site := Site.root (.entry "Theme") theme
    let owner := Site.root (.entry "Screen") screen
    site ∈ ({} : Options).outputs screens ∧ site.node.kind = .enumeration ∧
      (({} : Options).renderModel screens site).name = "Theme" ∧
      owner ∈ ({} : Options).outputs screens ∧
      .boxed (.model "Theme") ∈ ((Definition.model owner).types {} screens).value ∧
      DerivesDefault ((Definition.model owner).render {} screens).text ∧
      ∀ source ∈ ({} : Options).generateComplete screens, source.name = "Theme" →
        ¬ "impl Default for Theme".toList <:+: source.text.toList := by
  intro site owner
  have hfield : .boxed (.model "Theme") ∈ ((Definition.model owner).types {} screens).value := by
    decide +kernel
  have hbytes : ∀ source ∈ ({} : Options).generateComplete screens, source.name = "Theme" →
      ¬ "impl Default for Theme".toByteArray.data.toList <:+:
        source.text.toByteArray.data.toList := by decide +kernel
  refine ⟨mem_outputs_iff.mpr ⟨List.mem_cons_of_mem _ List.mem_cons_self, by decide +kernel⟩,
    by decide +kernel, by decide +kernel,
    mem_outputs_iff.mpr ⟨List.mem_cons_self, by decide +kernel⟩, hfield,
    Definition.derivesDefault_render rfl (List.ne_nil_of_mem hfield), ?_⟩
  intro source hsource hname hstands
  exact hbytes source hsource hname (bytes_of_infix_toList hstands)

end Options

end Typewright
