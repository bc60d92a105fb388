/-
  Typewright/Proofs/Naming/FieldForms.lean
  ========================================
  **Forms of field names** — which names come to one field name, and which are field
  names already.

  A name is first cased, or spelled out and cased if nothing of it is left; this is its
  *form*.  A form that stands as an identifier is the field name, any other one is
  escaped.  An escaped form always stands.  So two names meet if they have one form, if
  one has the form that the other gets by an escape, or if both are escaped to the
  same (`identifier_eq_iff`).  Where casing is settled, as it is for ASCII names, the
  field name of a field name is the field name itself (`identifier_identifier`).
-/
import Typewright.Proofs.Text.SmallWords

namespace Typewright

open Text (snakeCase spellOut escaped)

/-! ### Forms -/

/-- The cased form of a field name, before it is escaped. -/
def fieldForm (name : String) : String :=
  if snakeCase name = "" then snakeCase (spellOut name) else snakeCase name

theorem isReservedWord_iff {word : String} : isReservedWord word ↔ word ∈ reservedWords :=
  List.contains_iff_mem

theorem isReservedWord_eq_false_iff {word : String} :
    isReservedWord word = false ↔ word ∉ reservedWords := by
  rw [← Bool.not_eq_true, isReservedWord_iff]

/-- A form that can be used as it is. -/
def Stands (form : String) : Prop := startsIdentifier form ∧ isReservedWord form = false

instance (form : String) : Decidable (Stands form) := by
  unfold Stands
  infer_instance

theorem identifier_eq {name : String} (hname : name ≠ "") :
    identifier snakeCase isReservedWord name =
      if Stands (fieldForm name) then fieldForm name else escaped (snakeCase (fieldForm name)) := by
  have hstands : (startsIdentifier (fieldForm name) && !isReservedWord (fieldForm name)) = true ↔
      Stands (fieldForm name) := by
    simp [Stands]
  unfold identifier
  rw [if_neg hname, ← Text.snakeCase_escapeMark]
  exact if_congr hstands rfl rfl

theorem Stands.ne_empty {form : String} (h : Stands form) : form ≠ "" := by
  rintro rfl
  exact absurd h (by decide)

/-- A name whose cased form stands has that form. -/
theorem Stands.fieldForm_eq {name : String} (h : Stands (snakeCase name)) :
    fieldForm name = snakeCase name := if_neg h.ne_empty

/-- What starts like an identifier does so with anything behind it. -/
theorem startsIdentifier_of_mark {mark form : String} (hstart : startsIdentifier mark)
    (hmark : mark.toList <+: form.toList) : startsIdentifier form := by
  obtain ⟨rest, hrest⟩ := hmark
  unfold startsIdentifier at hstart ⊢
  rw [← hrest]
  cases hletters : mark.toList with
  | nil =>
    rw [hletters] at hstart
    cases hstart
  | cons c letters =>
    rw [hletters] at hstart
    exact hstart

/-- A form stands if it starts like no reserved word. -/
theorem stands_of_mark {mark form : String} (hstart : startsIdentifier mark)
    (hwords : ∀ word ∈ reservedWords, ¬ mark.toList <+: word.toList)
    (hmark : mark.toList <+: form.toList) : Stands form := by
  refine ⟨startsIdentifier_of_mark hstart hmark, isReservedWord_eq_false_iff.mpr ?_⟩
  intro hreserved
  exact hwords _ hreserved hmark

/-- No reserved word starts like an escaped name. -/
theorem stands_escaped (name : String) : Stands (escaped name) := by
  have hstart : startsIdentifier "reserved" := by decide
  apply stands_of_mark hstart (by decide)
  unfold escaped
  split
  · exact List.prefix_refl _
  · rw [String.toList_append]
    exact List.IsPrefix.trans (by decide) (List.prefix_append escapeMark.toList _)

theorem escaped_inj {name other : String} : escaped name = escaped other ↔ name = other := by
  have hlength : ∀ rest : String, "reserved" ≠ escapeMark ++ rest := by
    intro rest heq
    have hletters := congrArg String.length heq
    have hmark : escapeMark.length = 9 := rfl
    have hword : "reserved".length = 8 := rfl
    rw [String.length_append] at hletters
    omega
  constructor
  · intro heq
    unfold escaped at heq
    split at heq
    · next hname =>
      split at heq
      · next hother => rw [hname, hother]
      · exact absurd heq (hlength other)
    · split at heq
      · exact absurd heq.symm (hlength name)
      · exact (String.append_right_inj escapeMark).mp heq
  · rintro rfl
    rfl

/-! ### Names that meet -/

/-- Two names come to one field name: they have one form, one is escaped to the form of
    the other, or both are escaped to the same. -/
def Meet (first second : String) : Prop :=
  fieldForm first = fieldForm second ∨
  (¬ Stands (fieldForm first) ∧ fieldForm second = escaped (snakeCase (fieldForm first))) ∨
  (¬ Stands (fieldForm second) ∧ fieldForm first = escaped (snakeCase (fieldForm second))) ∨
  (¬ Stands (fieldForm first) ∧ ¬ Stands (fieldForm second) ∧
    snakeCase (fieldForm first) = snakeCase (fieldForm second))

instance (first second : String) : Decidable (Meet first second) := by
  unfold Meet
  infer_instance

theorem identifier_eq_iff {first second : String} (hfirst : first ≠ "") (hsecond : second ≠ "") :
    identifier snakeCase isReservedWord first = identifier snakeCase isReservedWord second ↔
      Meet first second := by
  rw [identifier_eq hfirst, identifier_eq hsecond]
  unfold Meet
  generalize fieldForm first = form
  generalize fieldForm second = form'
  by_cases hstands : Stands form
  · by_cases hstands' : Stands form'
    · simp [hstands, hstands']
    · -- forms of which only one stands are not the same
      have hne : form ≠ form' := by
        rintro rfl
        exact hstands' hstands
      simp [hstands, hstands', hne]
  · by_cases hstands' : Stands form'
    · have hne : form ≠ form' := by
        rintro rfl
        exact hstands hstands'
      simp [hstands, hstands', hne, eq_comm]
    · -- neither form stands, so neither is an escaped one
      have hne : ∀ name, form ≠ escaped name := by
        rintro name rfl
        exact hstands (stands_escaped name)
      have hne' : ∀ name, form' ≠ escaped name := by
        rintro name rfl
        exact hstands' (stands_escaped name)
      simp only [hstands, hstands', if_false, escaped_inj, not_false_eq_true, true_and, hne, hne',
        false_or]
      constructor
      · exact Or.inr
      · rintro (rfl | heq)
        · rfl
        · exact heq

/-! ### Field names of field names -/

/-- Where casing the form again changes nothing, the field name stands for itself. -/
theorem identifier_identifier {name : String} (hform : snakeCase (fieldForm name) = fieldForm name) :
    identifier snakeCase isReservedWord (identifier snakeCase isReservedWord name) =
      identifier snakeCase isReservedWord name := by
  have hself : ∀ form, Stands form → snakeCase form = form →
      identifier snakeCase isReservedWord form = form := by
    intro form hstands hcased
    have hsame : fieldForm form = form := by
      rw [← hcased] at hstands
      rw [hstands.fieldForm_eq, hcased]
    rw [identifier_eq hstands.ne_empty, hsame, if_pos hstands]
  by_cases hname : name = ""
  · have hempty : identifier snakeCase isReservedWord "" = "" := if_pos rfl
    rw [hname, hempty, hempty]
  · rw [identifier_eq hname]
    split
    · next hstands => exact hself _ hstands hform
    · apply hself _ (stands_escaped _)
      rw [hform]
      by_cases hempty : fieldForm name = ""
      · rw [hempty]
        decide
      · unfold escaped
        rw [if_neg hempty, Text.snakeCase_escapeMark, hform]
        exact if_neg hempty

/-- The form of an ASCII name is cased already. -/
theorem snakeCase_fieldForm {name : String} (hascii : Text.IsAscii name) :
    snakeCase (fieldForm name) = fieldForm name := by
  unfold fieldForm
  split
  · exact Text.snakeCase_snakeCase (Text.isAscii_spellOut hascii)
  · exact Text.snakeCase_snakeCase hascii

/-! ### Endings -/

/-- Two small words at the end of a form are at the end of the field name. -/
theorem suffix_identifier {word last : List Char} (hword : Text.Small word)
    (hlast : Text.Small last) (isReserved : String → Bool) {name : String}
    (h : ['_'].intercalate [word, last] <:+ (snakeCase name).toList) :
    ['_'].intercalate [word, last] <:+ (identifier snakeCase isReserved name).toList := by
  have hfull : ∀ {form : String}, ['_'].intercalate [word, last] <:+ form.toList → form ≠ "" := by
    rintro form hsuffix rfl
    have hnil := List.suffix_nil.mp hsuffix
    simp [List.intercalate_cons_cons] at hnil
  have hname : name ≠ "" := by
    rintro rfl
    exact hfull h rfl
  unfold identifier
  simp only [if_neg hname, if_neg (hfull h)]
  split
  · exact h
  · have hagain := Text.suffix_snakeCase_of_small hword hlast h
    rw [Text.snakeCase_escapeMark, escaped, if_neg (hfull hagain), String.toList_append]
    exact hagain.trans (List.suffix_append _ _)

/-- What is put behind a name shows at the end of the field name. -/
theorem suffix_identifier_append {tail first last : List Char}
    (hfirst : Text.Small (Text.lowerWord first)) (hlast : Text.Small (Text.lowerWord last))
    (htail : tail ≠ []) (hwords : ∀ c ∈ tail, Text.isWordChar c)
    (hsplit : ∀ mode, Text.EndIn first [last] (Text.splitRun mode tail))
    (isReserved : String → Bool) {name : String} {text : List Char}
    (hname : name.toList = text ++ tail) :
    ['_'].intercalate [Text.lowerWord first, Text.lowerWord last] <:+
      (identifier snakeCase isReserved name).toList := by
  apply suffix_identifier hfirst hlast
  have hends := Text.endIn_words_append htail hwords hsplit text
  rw [← hname] at hends
  exact hends.suffix_snakeCase (mt Text.lowerWord_eq_nil_iff.mpr hfirst.ne_nil)

/-! ### The default rules -/

theorem Scope.fieldName_default {scope : Scope} (hrules : scope.rules = {}) (name : String) :
    scope.fieldName name = identifier snakeCase isReservedWord name := by
  have hdefault : scope.rules.convention = {} := by rw [hrules]
  have hreserved : (scope.context none).isReserved = isReservedWord := by
    simp only [Scope.context, NameRules.context, hrules]
  unfold Scope.fieldName
  rw [NameRules.fieldName_eq hdefault, hreserved]

end Typewright
