/-
  Typewright/Proofs/Render/UsableVariants.lean
  ============================================
  **Names of variants that can be used** — when every variant of an enumeration has one.

  The candidate for a literal is looked at, and one that cannot be used gives way to the
  name of the literal as a member.  Two names are not looked at: that of a member, which
  is `Self` for a blank text in an enumeration of that name, and that of a type, which is
  the name of the type in capitalized words, whatever it is.  These are the only names
  that cannot be used (`stands_variantNames_iff`).  A place that is appended to a name
  changes nothing about it.
-/
import Typewright.Proofs.Naming.Identifiers
import Typewright.Proofs.Render.VariantNames
import Typewright.Proofs.Render.Variants
import Typewright.Proofs.Text.CapitalWords

namespace Typewright

open Text (pascalCase spellOut isWordChar words IsBlank)

/-! ### Capitalized names -/

/-- Of the reserved words only one starts like a capitalized name. -/
theorem isReservedWord_pascalCase_iff {text : String} :
    isReservedWord (pascalCase text) ↔ pascalCase text = "Self" := by
  have hwords : ∀ word ∈ reservedWords, (word.toList.head?).any Text.startsCapitalized →
      word = "Self" := by decide
  have hempty : "" ∉ reservedWords := by decide
  rw [isReservedWord_iff]
  constructor
  · intro hreserved
    have hne : words text.toList ≠ [] := fun hnil =>
      hempty (Text.pascalCase_eq_empty_iff.mpr hnil ▸ hreserved)
    obtain ⟨first, rest, hletters, hstarts⟩ := Text.exists_pascalCase_eq hne
    refine hwords _ hreserved ?_
    rw [hletters]
    exact hstarts
  · intro hself
    rw [hself]
    decide

theorem stands_pascalCase_iff {text : String} :
    Stands (pascalCase text) ↔ startsIdentifier (pascalCase text) ∧ pascalCase text ≠ "Self" := by
  unfold Stands
  rw [← Bool.not_eq_true, isReservedWord_pascalCase_iff]

/-- Two capitalized names make up `Self` only if the first one does alone. -/
theorem pascalCase_append_eq_self_iff {first second : String} (hfirst : pascalCase first ≠ "") :
    pascalCase first ++ pascalCase second = "Self" ↔
      pascalCase first = "Self" ∧ pascalCase second = "" := by
  have hsmall : ∀ c ∈ ['e', 'l', 'f'], Text.startsCapitalized c = false :=
    Text.forall_mem_of_all (by decide)
  constructor
  · intro hself
    have hsecond : pascalCase second = "" := by
      by_contra hne
      obtain ⟨c, rest, hletters, hstarts⟩ :=
        Text.exists_pascalCase_eq (mt Text.pascalCase_eq_empty_iff.mpr hne)
      obtain ⟨b, front, hfront⟩ :=
        List.exists_cons_of_ne_nil (mt String.toList_eq_nil_iff.mp hfirst)
      have hall := congrArg String.toList hself
      rw [String.toList_append, hletters, hfront, List.cons_append] at hall
      have htail : front ++ c :: rest = ['e', 'l', 'f'] := (List.cons.inj hall).2
      have hmem : c ∈ ['e', 'l', 'f'] := by
        rw [← htail]
        simp
      rw [hsmall c hmem] at hstarts
      cases hstarts
    rw [hsecond, String.append_empty] at hself
    exact ⟨hself, hsecond⟩
  · rintro ⟨hself, hempty⟩
    rw [hself, hempty]
    rfl

/-! ### Names of literals -/

/-- There is a digit in the text. -/
def HasDigit (text : String) : Prop := ∃ c ∈ text.toList, c.isDigit

namespace HasDigit

theorem appendLeft {second : String} (h : HasDigit second) (first : String) :
    HasDigit (first ++ second) := by
  obtain ⟨c, hc, hdigit⟩ := h
  refine ⟨c, ?_, hdigit⟩
  rw [String.toList_append]
  exact List.mem_append_right _ hc

theorem toString (n : Nat) : HasDigit (toString n) := by
  have hne : (ToString.toString n).toList ≠ [] := by
    rw [toList_toString]
    exact Nat.toDigits_ne_nil
  exact ⟨_, List.head_mem hne, isDigit_of_mem_toString (List.head_mem hne)⟩

theorem number (n : JsonNumber) : HasDigit n.text := by
  obtain ⟨sign, unsigned, htext, -, hunsigned⟩ := n.exists_text_eq
  obtain ⟨c, rest, hletters, hdigit⟩ := hunsigned.digit
  have hmem : c ∈ unsigned.toList := by
    rw [hletters]
    exact List.mem_cons_self
  rw [htext]
  exact appendLeft ⟨c, hmem, hdigit⟩ sign

theorem not_isBlank {text : String} (h : HasDigit text) : ¬ IsBlank text := by
  obtain ⟨c, hc, hdigit⟩ := h
  intro hblank
  have hword : isWordChar c := by
    have hascii : c.toNat < 128 := by
      by_contra hbeyond
      have hlast : c.toNat ≤ '9'.toNat := of_decide_eq_true (Bool.and_eq_true_iff.mp hdigit).2
      have hcode : '9'.toNat = 57 := rfl
      omega
    unfold isWordChar Text.isNumeric
    rw [if_pos hascii, hdigit, Bool.or_true]
  rw [(hblank c hc).1] at hword
  cases hword

end HasDigit

/-- The text of a literal that is no text has something to name. -/
theorem Json.not_isBlank_literalText {value : Json} (h : ∀ text, value ≠ .string text) :
    ¬ IsBlank value.literalText := by
  cases value with
  | null => decide
  | bool b => cases b <;> decide
  | number n => exact (HasDigit.number n).not_isBlank
  | string text => exact absurd rfl (h text)
  | array items =>
    intro hblank
    have hopen : '[' ∈ (Json.array items).literalText.toList := by
      simp [literalText, text, String.toList_append]
    exact absurd (hblank _ hopen).2 (by decide)
  | object members =>
    intro hblank
    have hopen : '\x7b' ∈ (Json.object members).literalText.toList := by
      simp [literalText, text, String.toList_append]
    exact absurd (hblank _ hopen).2 (by decide)

/-- The name of a member is reserved for a blank literal of a model named `Self`, and for
    no other one. -/
theorem NameContext.stands_enumMember_iff {context : NameContext} {id : String}
    (hid : context.model.id = some id) (hwords : words id.toList ≠ []) (literal : String) :
    Stands (context.enumMember literal) ↔ ¬ (pascalCase id = "Self" ∧ IsBlank literal) := by
  have hcased : pascalCase (id ++ "_" ++ pascalCase (spellOut literal)) = "Self" ↔
      pascalCase id = "Self" ∧ IsBlank literal := by
    rw [Text.pascalCase_joint,
      pascalCase_append_eq_self_iff (mt Text.pascalCase_eq_empty_iff.mp hwords),
      Text.pascalCase_pascalCase_eq_empty_iff, Text.pascalCase_spellOut_eq_empty_iff]
  have hmember : context.enumMember literal =
      let cased := pascalCase (id ++ "_" ++ pascalCase (spellOut literal))
      if startsIdentifier cased then cased else pascalCase (escapeMark ++ cased) := by
    rw [enumMember, hid]
    rfl
  rw [hmember]
  simp only
  split
  · next hstart => rw [stands_pascalCase_iff, and_iff_right hstart, Ne, hcased]
  · next hstart =>
    refine iff_of_true (stands_pascalCase_escapeMark _) fun hself => hstart ?_
    rw [hcased.mpr hself]
    decide

/-! ### Members -/

/-- The name of the variant for a member of an enumeration can be used. -/
def Member.Usable (id : String) : Member → Prop
  | .type name => Stands (pascalCase name)
  | .literal (.string text) => ¬ (pascalCase id = "Self" ∧ IsBlank text)
  | .literal _ => True

/-- The names of the types that are known. -/
def Shape.typeNames : List String :=
  ["string", "integer", "int32", "int64", "long", "number", "boolean", "array", "object"]

theorem Shape.ofTypeName_of_not_mem {name : String} (h : name ∉ Shape.typeNames) :
    Shape.ofTypeName name = .unknown := by
  simp only [typeNames, List.mem_cons, List.not_mem_nil, or_false, not_or] at h
  unfold ofTypeName
  simp [h]

theorem Variant.stands_ofType_iff (index : Nat) (name : String) :
    Stands (Variant.ofType index name).name ↔ Stands (pascalCase name) := by
  have hindex : (Variant.ofType index name).name = (Variant.ofType 0 name).name := by
    unfold Variant.ofType
    cases Shape.ofTypeName name <;> rfl
  -- all names of known types stand, and so do the names that they are given
  have hfixed : ∀ known ∈ Shape.typeNames,
      Stands (Variant.ofType 0 known).name ∧ Stands (pascalCase known) := by decide +kernel
  rw [hindex]
  by_cases hknown : name ∈ Shape.typeNames
  · exact iff_of_true (hfixed name hknown).1 (hfixed name hknown).2
  · rw [Variant.ofType, Shape.ofTypeName_of_not_mem hknown]

namespace Scope

theorem name_payloadVariant (scope : Scope) (index : Nat) (value : Json) :
    (scope.payloadVariant index value).name =
      match value with
      | .string text => scope.variantName (pascalCase text) text
      | .number _ => "F64"
      | .bool _ => "Bool"
      | .object _ => "HashMap"
      | .array _ => "Array"
      | .null => "Null" := by
  cases value <;> simp only [payloadVariant]

variable {registry : Registry} {model : Node} {id : String} (hid : model.id = some id)
  (hwords : words id.toList ≠ [])
include hid hwords

theorem stands_enumMember_iff (literal : String) :
    Stands ((Scope.ofModel {} registry model).enumMember literal) ↔
      ¬ (pascalCase id = "Self" ∧ IsBlank literal) := by
  unfold Scope.enumMember
  rw [NameRules.enumMember_eq rfl]
  exact NameContext.stands_enumMember_iff hid hwords literal

theorem stands_variantName_iff (literal : String) :
    Stands ((Scope.ofModel {} registry model).variantName (pascalCase literal) literal) ↔
      ¬ (pascalCase id = "Self" ∧ IsBlank literal) := by
  have hreserved : (Scope.ofModel {} registry model).rules.isReserved = isReservedWord := rfl
  unfold variantName
  rw [hreserved]
  split
  · next hfree =>
    have hstands : Stands (pascalCase literal) := by
      rwa [Bool.and_eq_true, Bool.not_eq_true'] at hfree
    refine iff_of_true hstands fun hself => hstands.ne_empty hself.2.pascalCase_eq
  · exact stands_enumMember_iff hid hwords literal

/-- The name of a variant can be used just if its member allows it. -/
theorem stands_memberVariant_iff (slot : VariantSlot) :
    Stands ((Scope.ofModel {} registry model).memberVariant slot).name ↔ slot.member.Usable id := by
  obtain ⟨index, member, uniform⟩ := slot
  cases member with
  | type name => exact Variant.stands_ofType_iff index name
  | literal value =>
    have husable : ¬ (pascalCase id = "Self" ∧ IsBlank value.literalText) ↔
        (Member.literal value).Usable id := by
      cases value with
      | string text => exact Iff.rfl
      | null | bool | number | array | object =>
        exact iff_of_true (fun h => Json.not_isBlank_literalText (by simp) h.2) trivial
    cases uniform with
    | true =>
      change Stands (unitVariant _ value).name ↔ _
      rw [← husable]
      simp only [unitVariant]
      split
      · exact stands_variantName_iff hid hwords _
      · exact stands_enumMember_iff hid hwords _
    | false =>
      have hfixed : ∀ name ∈ ["F64", "Bool", "HashMap", "Array", "Null"], Stands name := by decide
      change Stands (payloadVariant _ index value).name ↔ _
      rw [name_payloadVariant]
      cases value with
      | string text => exact stands_variantName_iff hid hwords text
      | null | bool | number | array | object => exact iff_of_true (hfixed _ (by simp)) trivial

end Scope

/-! ### Given names -/

theorem stands_append_toString {name : String} (h : Stands name) (n : Nat) :
    Stands (name ++ toString n) := by
  have hdigits : ∀ word ∈ reservedWords, word.toList.all (!·.isDigit) := by decide
  refine ⟨startsIdentifier_of_mark h.1 ?_, isReservedWord_eq_false_iff.mpr ?_⟩
  · rw [String.toList_append]
    exact List.prefix_append _ _
  · intro hreserved
    obtain ⟨c, hc, hdigit⟩ := (HasDigit.toString n).appendLeft name
    have hnone := List.all_eq_true.mp (hdigits _ hreserved) c hc
    rw [hdigit] at hnone
    cases hnone

/-- A candidate is given, by its own variant or by an earlier one. -/
theorem mem_givenNames_of_mem {candidates : List String} {candidate : String}
    (h : candidate ∈ candidates) : candidate ∈ givenNames candidates := by
  induction candidates using List.reverseRecOn with
  | nil => cases h
  | append_singleton before last ih =>
    rw [givenNames_concat, List.mem_append, List.mem_singleton]
    rcases List.mem_append.mp h with hbefore | hlast
    · exact Or.inl (ih hbefore)
    · obtain rfl := List.mem_singleton.mp hlast
      unfold nameAfter
      by_cases htaken : candidate ∈ givenNames before
      · exact Or.inl htaken
      · rw [if_neg htaken]
        exact Or.inr rfl

theorem forall_stands_givenNames_iff {candidates : List String} :
    (∀ name ∈ givenNames candidates, Stands name) ↔
      ∀ candidate ∈ candidates, Stands candidate := by
  constructor
  · exact fun h candidate hmem => h candidate (mem_givenNames_of_mem hmem)
  · intro h name hname
    rcases mem_givenNames hname with hmem | ⟨candidate, hmem, n, -, rfl⟩
    · exact h name hmem
    · exact stands_append_toString (h candidate hmem) n

/-! ### Enumerations -/

namespace Options

/-- **Names of variants that can be used.**  Under the default options, and with a letter
    or digit in the identifier of the model, the variants that are written all have names
    that stand just if two things hold: the name of every type among the members stands
    once it is cased, and no literal is a blank text if the identifier is cased to
    `Self`.  So in an enumeration of literals with any other name they all stand. -/
theorem stands_variantNames_iff (registry : Registry) {model : Node} {id : String}
    (hid : model.id = some id) (hword : ∃ c ∈ id.toList, isWordChar c) :
    let scope := Scope.ofModel {} registry model
    let variants := ({} : Options).variants registry model
    (({} : Options).renderEnum registry model).text =
      heading (scope.name ++ " enum of type: " ++ model.typeDescription) model.description
          (EnumHooks.traits variants)
        ++ braced ("pub enum " ++ scope.name) (variants.flatMap EnumHooks.variantLines) ∧
    ((∀ variant ∈ variants, Stands variant.name) ↔
      ∀ member ∈ model.enumMembers, member.Usable id) ∧
    (model.members ≠ [] → pascalCase id ≠ "Self" → ∀ variant ∈ variants, Stands variant.name) := by
  intro scope variants
  have hwords : words id.toList ≠ [] := by
    obtain ⟨c, hc, hchar⟩ := hword
    intro hnil
    rw [Text.words_eq_nil_iff.mp hnil c hc] at hchar
    cases hchar
  have hcandidates : (∀ candidate ∈ model.candidates registry, Stands candidate) ↔
      ∀ member ∈ model.enumMembers, member.Usable id := by
    unfold Node.candidates EnumHooks.variants
    rw [List.forall_mem_map]
    constructor
    · intro h member hmember
      obtain ⟨index, hindex, rfl⟩ := List.getElem_of_mem hmember
      have hstands := h _ (List.mem_mapIdx.mpr ⟨index, hindex, rfl⟩)
      exact (Scope.stands_memberVariant_iff hid hwords _).mp hstands
    · intro h variant hvariant
      obtain ⟨index, hindex, rfl⟩ := List.mem_mapIdx.mp hvariant
      have husable := h _ (List.getElem_mem hindex)
      exact (Scope.stands_memberVariant_iff hid hwords ⟨index, _, _⟩).mpr husable
  have hiff : (∀ variant ∈ variants, Stands variant.name) ↔
      ∀ member ∈ model.enumMembers, member.Usable id := by
    rw [← hcandidates, ← forall_stands_givenNames_iff, ← names_variants, List.forall_mem_map]
  refine ⟨EnumHooks.text_render scope, hiff, ?_⟩
  intro hmembers hself
  rw [hiff, Node.enumMembers_of_members hmembers, List.forall_mem_map]
  intro value _
  cases value with
  | string text => exact fun hblank => hself hblank.1
  | null | bool | number | array | object => trivial

/-- Marks of which none can be cased to a name. -/
def marks : Node where
  id := some "Mark"
  type := some (.single "string")
  literals := some [.string "1st", .string "self", .string "+"]

/-- All three marks get the names of members. -/
theorem stands_variantNames_iff_marks :
    (marks.id = some "Mark" ∧ ∃ c ∈ "Mark".toList, isWordChar c) ∧
    marks.kind = .enumeration ∧
    (({} : Options).variants {} marks).map (·.name) = ["Mark1st", "MarkSelf", "MarkPlus"] ∧
    ∀ variant ∈ ({} : Options).variants {} marks, Stands variant.name := by
  have hword : ∃ c ∈ "Mark".toList, isWordChar c := ⟨'M', by decide, by decide⟩
  have hid : marks.id = some "Mark" := rfl
  obtain ⟨-, -, hliterals⟩ := stands_variantNames_iff {} hid hword
  exact ⟨⟨hid, hword⟩, by decide +kernel, by decide +kernel,
    hliterals (by simp [marks, Node.members]) (by decide)⟩

/-- Parts that are flat or told by a text. -/
def part : Node where
  id := some "Part"
  type := some (.several ["2d", "string"])

/-- An enumeration of a blank text, by the name of the one reserved word that is cased. -/
def own : Node where
  id := some "Self"
  type := some (.single "string")
  literals := some [.string ""]

/-- A type is named after a digit, and a blank text after the reserved word. -/
theorem part_own_unusable :
    (part.kind = .union ∧ (({} : Options).variants {} part).map (·.name) = ["2d", "String"] ∧
      startsIdentifier "2d" = false) ∧
    own.kind = .enumeration ∧ (({} : Options).variants {} own).map (·.name) = ["Self"] ∧
      "Self" ∈ reservedWords := by
  decide +kernel

end Options

end Typewright
