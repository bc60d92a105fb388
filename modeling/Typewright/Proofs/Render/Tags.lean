/-
  Typewright/Proofs/Render/Tags.lean
  ==================================
  **Tags of variants** — how the members of an enumeration are told apart in the data.

  Every member has a variant of its own, in order, and a line above it says what the
  member is called in the data: a literal of a uniform enumeration by its text, any other
  member by its place.  To be renamed changes the name of a variant and leaves its tag.

  Places differ.  The texts of two literals may be one text even if the literals are not
  one value, as those of `"1"` and `1` are; but the literals of a uniform enumeration are
  all texts, all numbers or all booleans.  So different literals have different tags
  (`tags_kept`), as long as different numbers are written differently.
-/
import Typewright.Proofs.Render.VariantNames
import Typewright.Proofs.Render.WireNames

namespace Typewright

/-! ### Tags of members -/

/-- What a member is called in the data, by its place in the enumeration. -/
def Member.wireForm (uniform : Bool) (index : Nat) : Member → String
  | .literal value => if uniform then value.literalText else toString index
  | .type _ => toString index

theorem Member.wireForm_of_not_uniform (index : Nat) (member : Member) :
    member.wireForm false index = toString index := by
  cases member with
  | literal value => rfl
  | type name => rfl

/-- A member that has no value but itself. -/
def Member.IsUnit (uniform : Bool) : Member → Prop
  | .literal value => uniform ∨ value = .null
  | .type _ => False

/-- What the members of a model are called in the data, in order. -/
def Node.wireForms (model : Node) : List String :=
  model.enumMembers.mapIdx (Member.wireForm model.isUniformEnum)

namespace Scope

variable (scope : Scope)

theorem attributes_memberVariant (slot : VariantSlot) :
    (scope.memberVariant slot).attributes =
      [Variant.tag (slot.member.wireForm slot.uniform slot.index)] := by
  obtain ⟨index, member, uniform⟩ := slot
  cases member with
  | type name => rfl
  | literal value =>
    cases uniform with
    | true => rfl
    | false => rfl

theorem payload_memberVariant_eq_none_iff (slot : VariantSlot) :
    (scope.memberVariant slot).payload = none ↔ slot.member.IsUnit slot.uniform := by
  obtain ⟨index, member, uniform⟩ := slot
  cases member with
  | type name => simp [memberVariant, Variant.ofType, Member.IsUnit]
  | literal value =>
    cases uniform with
    | true => simp [memberVariant, unitVariant, Member.IsUnit]
    | false => cases value <;> simp [memberVariant, payloadVariant, Member.IsUnit]

end Scope

/-! ### Variants as they are written -/

/-- The line of a tag, and that of the declaration below it. -/
theorem EnumHooks.variantLines_of_tag {variant : Variant} {form : String}
    (hattributes : variant.attributes = [Variant.tag form]) :
    EnumHooks.variantLines variant =
      ["    " ++ Variant.tag form, "    " ++ variant.declaration ++ ","] := by
  have htag : Variant.tag form ≠ "" := by
    intro hempty
    have hend := (String.append_eq_empty_iff.mp hempty).2
    revert hend
    decide
  rw [EnumHooks.variantLines, hattributes, List.map_singleton,
    Text.indent_eq htag (oneLine_variant form)]
  rfl

/-! ### Tags that differ -/

/-- Literals of a scalar type, by their type. -/
theorem Json.exists_of_literalKind {value : Json} {kind : LiteralKind}
    (h : value.literalKind = some kind) :
    match kind with
    | .text => ∃ s, value = .string s
    | .number => ∃ n, value = .number n
    | .flag => ∃ b, value = .bool b := by
  cases value with
  | null | array _ | object _ => cases h
  | string s =>
    cases h
    exact ⟨s, rfl⟩
  | number n =>
    cases h
    exact ⟨n, rfl⟩
  | bool b =>
    cases h
    exact ⟨b, rfl⟩

/-- Literals of one scalar type with one text are one value, if numbers are. -/
theorem Json.same_of_literalText_eq {first second : Json} {kind : LiteralKind}
    (hfirst : first.literalKind = some kind) (hsecond : second.literalKind = some kind)
    (htext : first.literalText = second.literalText)
    (hnumbers : ∀ m n, first = .number m → second = .number n → m.text = n.text → m.same n) :
    first.same second := by
  have hleft := exists_of_literalKind hfirst
  have hright := exists_of_literalKind hsecond
  cases kind with
  | text =>
    obtain ⟨s, rfl⟩ := hleft
    obtain ⟨t, rfl⟩ := hright
    simpa [Json.same, literalText] using htext
  | number =>
    obtain ⟨m, rfl⟩ := hleft
    obtain ⟨n, rfl⟩ := hright
    have hsame := hnumbers m n rfl rfl (by simpa [literalText, text] using htext)
    simpa [Json.same] using hsame
  | flag =>
    obtain ⟨a, rfl⟩ := hleft
    obtain ⟨b, rfl⟩ := hright
    revert htext
    cases a <;> cases b <;> decide

/-- The literals of a uniform enumeration are of one scalar type. -/
theorem Node.exists_literalKind_of_isUniformEnum {model : Node} (huniform : model.isUniformEnum) :
    ∃ kind, ∀ value ∈ model.members, value.literalKind = some kind := by
  unfold isUniformEnum at huniform
  cases hmembers : model.members with
  | nil =>
    rw [hmembers] at huniform
    cases huniform
  | cons first rest =>
    rw [hmembers] at huniform
    simp only [Bool.and_eq_true, List.all_eq_true, decide_eq_true_eq] at huniform
    obtain ⟨hsome, hrest⟩ := huniform
    obtain ⟨kind, hkind⟩ := Option.isSome_iff_exists.mp hsome
    refine ⟨kind, List.forall_mem_cons.mpr ⟨hkind, ?_⟩⟩
    intro value hvalue
    rw [hrest value hvalue, hkind]

/-- The literals of a uniform enumeration have their texts as tags. -/
theorem Node.wireForms_of_isUniformEnum {model : Node} (huniform : model.isUniformEnum) :
    model.wireForms = model.members.map Json.literalText := by
  unfold wireForms
  rw [enumMembers_of_members (members_ne_nil_of_isUniformEnum huniform), huniform]
  apply List.ext_getElem
  · simp
  · intro index _ _
    simp [Member.wireForm]

/-- All other members have their places. -/
theorem Node.wireForms_of_not_isUniformEnum {model : Node} (huniform : ¬ model.isUniformEnum) :
    model.wireForms = (List.range model.enumMembers.length).map toString := by
  have hfalse : model.isUniformEnum = false := by simpa using huniform
  unfold wireForms
  rw [hfalse]
  apply List.ext_getElem
  · simp
  · intro index _ _
    rw [List.getElem_mapIdx, List.getElem_map, List.getElem_range, Member.wireForm_of_not_uniform]

/-- No two literals of the model are one value. -/
def Node.HasDistinctLiterals (model : Node) : Prop :=
  model.members.Pairwise fun first second => first.same second = false

/-- Two numbers among the literals of the model that are written alike are one value. -/
def Node.WritesNumbersApart (model : Node) : Prop :=
  ∀ m n, .number m ∈ model.members → .number n ∈ model.members → m.text = n.text → m.same n

theorem Node.nodup_wireForms {model : Node} (hdistinct : model.HasDistinctLiterals)
    (hnumbers : model.WritesNumbersApart) : model.wireForms.Nodup := by
  by_cases huniform : model.isUniformEnum
  · obtain ⟨kind, hkind⟩ := exists_literalKind_of_isUniformEnum huniform
    rw [wireForms_of_isUniformEnum huniform, List.Nodup, List.pairwise_map]
    refine hdistinct.imp_of_mem ?_
    intro first second hfirst hsecond hdifferent htext
    have hsame := Json.same_of_literalText_eq (hkind first hfirst) (hkind second hsecond) htext
      fun m n hm hn => hnumbers m n (hm ▸ hfirst) (hn ▸ hsecond)
    rw [hdifferent] at hsame
    cases hsame
  · rw [wireForms_of_not_isUniformEnum huniform]
    exact List.nodup_range.map toString_injective

/-! ### Enumerations -/

namespace Options

/-- **Tags of variants.**  With the default pieces, an enumeration or union is written as
    one variant for each member, in order: the line of its tag, which is read as what the
    member is called in the data, and that of its declaration.  The variants without a
    payload are the literals of uniform enumerations and `null`.  If no two literals are
    one value, and numbers that are written alike are, then no two members are called the
    same in the data, however the variants were renamed. -/
theorem tags_kept (options : Options) (registry : Registry) (hhooks : options.hooks.enums = {})
    (site : Site) (hkind : site.node.kind = .enumeration ∨ site.node.kind = .union) :
    let model := site.node
    let scope := Scope.ofModel options.rules registry model
    let variants := options.variants registry model
    (options.renderComplete registry site).text =
      heading (scope.name ++ " enum of type: " ++ model.typeDescription) model.description
          (EnumHooks.traits variants)
        ++ braced ("pub enum " ++ scope.name) (variants.flatMap EnumHooks.variantLines)
        ++ (if options.enumDefaults then appended (EnumHooks.defaultText scope.name variants)
          else "") ∧
    variants.length = model.enumMembers.length ∧
    (∀ (index : Nat) (member : Member), model.enumMembers[index]? = some member →
      let form := member.wireForm model.isUniformEnum index
      model.wireForms[index]? = some form ∧
      wireName? ("    " ++ Variant.tag form) = some (some form) ∧
      ∃ variant, variants[index]? = some variant ∧
        EnumHooks.variantLines variant =
          ["    " ++ Variant.tag form, "    " ++ variant.declaration ++ ","] ∧
        (variant.payload = none ↔ member.IsUnit model.isUniformEnum)) ∧
    (model.HasDistinctLiterals → model.WritesNumbersApart → model.wireForms.Nodup) := by
  intro model scope variants
  have hvariants : variants =
      Variant.renamed 0 [] (EnumHooks.variants {} scope model.isUniformEnum) := by
    simp only [variants, Options.variants, EnumHooks.written, hhooks]
    rfl
  refine ⟨?_, ?_, ?_, Node.nodup_wireForms⟩
  · rw [renderComplete_enumeration options registry hkind]
    exact text_renderEnum registry hhooks model
  · rw [hvariants, Variant.length_renamed, EnumHooks.variants, List.length_mapIdx]
    rfl
  · intro index member hmember form
    obtain ⟨name, hrenamed⟩ := Variant.getElem?_renamed
      (EnumHooks.variants {} scope model.isUniformEnum) 0 index []
    have hplace : scope.model.enumMembers[index]? = some member := hmember
    rw [← hvariants, EnumHooks.variants, List.getElem?_mapIdx, hplace] at hrenamed
    refine ⟨?_, wireName?_variant form, _, hrenamed, EnumHooks.variantLines_of_tag ?_, ?_⟩
    · rw [Node.wireForms, List.getElem?_mapIdx, hmember]
      rfl
    · exact scope.attributes_memberVariant ⟨index, member, model.isUniformEnum⟩
    · exact scope.payload_memberVariant_eq_none_iff ⟨index, member, model.isUniformEnum⟩

/-- The number one with a fraction. -/
def oneReal : Number.Binary64 :=
  ⟨false, 2 ^ 52, -52, by decide, .inl (by decide), by decide⟩

/-- Levels of which two differ in their form alone. -/
def levels : Node where
  id := some "Level"
  literals := some [.number (.whole 1), .number (.real oneReal), .number (.whole (-1))]

/-- The levels are called by their texts, which differ. -/
theorem tags_kept_levels :
    (levels.kind = .enumeration ∧ levels.HasDistinctLiterals ∧ levels.WritesNumbersApart) ∧
    levels.wireForms = ["1", "1.0", "-1"] ∧ levels.wireForms.Nodup ∧
    ∃ variant, (({} : Options).variants {} levels)[1]? = some variant ∧
      EnumHooks.variantLines variant =
        ["    #[serde(rename = \"1.0\")]", "    " ++ variant.declaration ++ ","] ∧
      variant.payload = none := by
  have hkind : levels.kind = .enumeration := by decide +kernel
  have hforms : levels.wireForms = ["1", "1.0", "-1"] := by decide +kernel
  have hdistinct : levels.HasDistinctLiterals := by
    unfold Node.HasDistinctLiterals
    decide +kernel
  have hnumbers : levels.WritesNumbersApart := by
    intro m n hm hn htext
    simp only [Node.members, levels, Option.getD_some, List.mem_cons, List.not_mem_nil, or_false,
      Json.number.injEq] at hm hn
    obtain rfl | rfl | rfl := hm <;> obtain rfl | rfl | rfl := hn <;>
      revert htext <;> decide +kernel
  obtain ⟨-, -, hmembers, hnodup⟩ :=
    tags_kept {} {} rfl (.root (.entry "Level") levels) (Or.inl hkind)
  have hsecond : levels.enumMembers[1]? = some (.literal (.number (.real oneReal))) := rfl
  obtain ⟨-, -, variant, hvariant, hlines, hpayload⟩ := hmembers 1 _ hsecond
  have huniform : levels.isUniformEnum := by decide +kernel
  refine ⟨⟨hkind, hdistinct, hnumbers⟩, hforms, hnodup hdistinct hnumbers, variant, hvariant,
    ?_, hpayload.mpr (Or.inl huniform)⟩
  rw [hlines]
  have htag : "    " ++ Variant.tag
      ((Member.literal (.number (.real oneReal))).wireForm levels.isUniformEnum 1) =
      "    #[serde(rename = \"1.0\")]" := by
    decide +kernel
  exact congrArg (fun line => [line, "    " ++ variant.declaration ++ ","]) htag

end Options

end Typewright
