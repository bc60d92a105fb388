/-
  Typewright/Proofs/Render/NumericNames.lean
  ==========================================
  **Names of numbers** — why the variants of a numeric enumeration keep their names.

  Casing drops the sign of a number, and what is left starts with a digit.  So no cased
  number starts like an identifier: its variant is named as a member, whatever the type of
  the model (`name_unitVariant_number`).

  Names of members differ where the numbers do.  Candidates that differ are not renamed,
  so the variants have them (`numbers_keep_names`).
-/
import Typewright.Proofs.Naming.MemberNames
import Typewright.Proofs.Render.Tags

namespace Typewright

open Text (pascalCase IsAscii folded)

/-! ### Candidates of numbers -/

theorem JsonNumber.literalText_number (n : JsonNumber) :
    (Json.number n).literalText = n.text := by
  rw [Json.literalText, Json.text]
  intro text htext
  cases htext

/-- Without its sign, a number starts with a digit. -/
theorem JsonNumber.exists_folded_text_eq (n : JsonNumber) :
    ∃ c rest, folded n.text.toList = c :: rest ∧ c.isDigit := by
  obtain ⟨sign, unsigned, htext, hsign, hunsigned⟩ := n.exists_text_eq
  obtain ⟨c, rest, hletters, hdigit⟩ := hunsigned.digit
  have hnothing : folded sign.toList = [] := by
    obtain rfl | rfl := hsign
    · rfl
    · decide
  have hfirst : folded [c] = [c] := by
    have hchars : ∀ d ∈ numeralChars, d.isDigit → folded [d] = [d] :=
      Text.forall_mem_of_all (by decide)
    exact hchars c (mem_numeralChars_of_isDigit hdigit) hdigit
  refine ⟨c, folded rest, ?_, hdigit⟩
  rw [htext, String.toList_append, Text.folded_append, hnothing, hletters, List.nil_append,
    ← List.singleton_append, Text.folded_append, hfirst]
  rfl

/-- Nor does a cased number start with a letter: no letter is the capital of a digit. -/
theorem JsonNumber.startsIdentifier_pascalCase_text (n : JsonNumber) :
    startsIdentifier (pascalCase n.text) = false := by
  have hascii := Text.isAscii_of_isNumeral n.isNumeral_text
  obtain ⟨c, rest, hfolded, hdigit⟩ := n.exists_folded_text_eq
  rw [← Text.map_toLower_pascalCase hascii] at hfolded
  have hnumber : ∀ d ∈ Text.capitals ++ (Text.smallLetters ++ Text.digits), d.toLower.isDigit →
      (Text.isLetter d || d == '_') = false :=
    Text.forall_mem_of_all (by decide)
  unfold startsIdentifier
  cases hcased : (pascalCase n.text).toList with
  | nil => rfl
  | cons d more =>
    rw [hcased] at hfolded
    obtain ⟨hd, -⟩ := List.cons_eq_cons.mp hfolded
    have hmem : d ∈ (pascalCase n.text).toList := by
      rw [hcased]
      exact List.mem_cons_self
    exact hnumber d (Text.mem_pascalCase_of_ascii hascii hmem) (hd ▸ hdigit)

/-- A number is named as a member of its enumeration. -/
theorem Scope.name_unitVariant_number (scope : Scope) (n : JsonNumber) :
    (scope.unitVariant (.number n)).name = scope.enumMember n.text := by
  simp only [unitVariant, n.literalText_number, variantName, n.startsIdentifier_pascalCase_text,
    Bool.false_and, Bool.false_eq_true, if_false, ite_self]

/-! ### Enumerations -/

namespace Options

/-- **Names of numbers.**  As members of a model whose identifier is ASCII, or that has
    none, different numerals have different names, whether they are escaped or not; and the
    texts of numbers are numerals.  So if all literals of an enumeration are numbers whose
    texts differ, then the candidates for the names of the variants are the names of these
    texts, they differ too, and no variant is renamed. -/
theorem numbers_keep_names (registry : Registry) {model : Node}
    (hid : ∀ id ∈ model.id, IsAscii id) (huniform : model.isUniformEnum)
    (hnumbers : ∀ value ∈ model.members, value.literalKind = some .number)
    (hdistinct : (model.members.map Json.literalText).Nodup) :
    let scope := Scope.ofModel {} registry model
    Set.InjOn scope.enumMember {name | IsNumeral name} ∧
    (∀ n : JsonNumber, IsNumeral n.text) ∧
    model.candidates registry =
      model.members.map (fun value => scope.enumMember value.literalText) ∧
    (model.candidates registry).Nodup ∧
    ({} : Options).variants registry model = EnumHooks.variants {} scope true := by
  intro scope
  have hinjective : Set.InjOn scope.enumMember {name | IsNumeral name} := by
    have hmember : scope.enumMember = scope.context.enumMember :=
      funext (NameRules.enumMember_eq rfl scope.context)
    rw [hmember]
    exact NameContext.enumMember_injOn hid
  have hcandidates : model.candidates registry =
      model.members.map fun value => scope.enumMember value.literalText := by
    rw [Node.candidates, huniform, Scope.variants_eq _ huniform, List.map_map]
    apply List.map_congr_left
    intro value hvalue
    obtain ⟨n, rfl⟩ := Json.exists_of_literalKind (hnumbers value hvalue)
    rw [n.literalText_number]
    exact scope.name_unitVariant_number n
  have hnumerals : ∀ text ∈ model.members.map Json.literalText, IsNumeral text := by
    intro text htext
    obtain ⟨value, hvalue, rfl⟩ := List.mem_map.mp htext
    obtain ⟨n, rfl⟩ := Json.exists_of_literalKind (hnumbers value hvalue)
    rw [n.literalText_number]
    exact n.isNumeral_text
  have hnodup : (model.candidates registry).Nodup := by
    have hmap : model.candidates registry =
        (model.members.map Json.literalText).map scope.enumMember := by
      rw [hcandidates, List.map_map]
      rfl
    rw [hmap]
    exact hdistinct.map_on fun first hfirst second hsecond heq =>
      hinjective (hnumerals first hfirst) (hnumerals second hsecond) heq
  refine ⟨hinjective, JsonNumber.isNumeral_text, hcandidates, hnodup, ?_⟩
  rw [Node.candidates, huniform] at hnodup
  have hvariants : ({} : Options).variants registry model =
      Variant.renamed 0 [] (EnumHooks.variants {} scope true) := by
    rw [← huniform]
    rfl
  rw [hvariants]
  exact Variant.renamed_eq_self hnodup (fun _ _ => List.not_mem_nil) 0

/-- Floors of a model whose identifier leaves nothing in a name. -/
def floors : Node where
  id := some "_"
  literals := some [.number (.whole (-1)), .number (.whole 1), .number (.real oneReal)]

/-- Two of the floors are escaped, and no two have one name. -/
theorem numbers_keep_names_floors :
    ((∀ id ∈ floors.id, IsAscii id) ∧ floors.isUniformEnum ∧
      (∀ value ∈ floors.members, value.literalKind = some .number) ∧
      (floors.members.map Json.literalText).Nodup) ∧
    floors.members.map Json.literalText = ["-1", "1", "1.0"] ∧
    (floors.candidates {}).Nodup ∧
    (({} : Options).variants {} floors).map (·.name) = ["Minus1", "Reserved1", "Reserved1dot0"] := by
  have hid : ∀ id ∈ floors.id, IsAscii id := by
    rintro id hid
    obtain rfl := Option.some.inj hid
    decide
  have huniform : floors.isUniformEnum := by decide +kernel
  have hnumbers : ∀ value ∈ floors.members, value.literalKind = some .number := by
    decide +kernel
  have htexts : floors.members.map Json.literalText = ["-1", "1", "1.0"] := by decide +kernel
  have hdistinct : (floors.members.map Json.literalText).Nodup := by
    rw [htexts]
    decide
  obtain ⟨-, -, -, hnodup, hvariants⟩ :=
    numbers_keep_names {} hid huniform hnumbers hdistinct
  refine ⟨⟨hid, huniform, hnumbers, hdistinct⟩, htexts, hnodup, ?_⟩
  rw [hvariants]
  decide +kernel

end Options

end Typewright
