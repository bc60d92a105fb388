/-
  Typewright/Proofs/Naming/Convention.lean
  ========================================
  **Identifiers of names** — one for every name, made of name characters only.

  A name that cannot stand as an identifier is escaped, and the mark of the escape
  is a word of its own: it comes first in the result, whatever follows it.  So an
  identifier is empty only if the name is.

  What holds of an identifier in either casing holds of every name that the default
  convention makes.
-/
import Typewright.Proofs.Text.Words
import Typewright.Types.Scope

namespace Typewright

namespace Text

/-- No word goes across the joint of two texts. -/
theorem words_joint (first second : List Char) :
    words (first ++ '_' :: second) = words first ++ words second := by
  rw [words, wordRuns, pieces_append _ _ (by decide), List.flatMap_append]
  rfl

/-- The mark of an escape is a word of its own. -/
theorem words_escapeMark (name : String) :
    words (escapeMark ++ name).toList = "reserved".toList :: words name.toList := by
  have hmark : (escapeMark ++ name).toList = "reserved".toList ++ '_' :: name.toList := by
    rw [String.toList_append]
    rfl
  have hword : words "reserved".toList = ["reserved".toList] := by decide
  rw [hmark, words_joint, hword]
  rfl

theorem pascalCase_escapeMark (name : String) :
    pascalCase (escapeMark ++ name) = "Reserved" ++ pascalCase name := by
  have hword : capitalizeWord "reserved".toList = "Reserved".toList := by decide
  unfold pascalCase
  rw [words_escapeMark, List.flatMap_cons, hword, String.ofList_append, String.ofList_toList]

theorem pascalCase_escapeMark_ne_empty (name : String) : pascalCase (escapeMark ++ name) ≠ "" := by
  rw [pascalCase_escapeMark]
  intro hempty
  have hlength := congrArg String.length hempty
  have hmark : "Reserved".length = 8 := rfl
  have hzero : "".length = 0 := rfl
  rw [String.length_append] at hlength
  omega

theorem snakeCase_escapeMark_ne_empty (name : String) : snakeCase (escapeMark ++ name) ≠ "" := by
  have hword : lowerWord "reserved".toList = "reserved".toList := by decide
  intro hempty
  have hletters := congrArg String.toList hempty
  unfold snakeCase at hletters
  rw [words_escapeMark, List.map_cons, hword, String.toList_ofList] at hletters
  rcases hrest : (words name.toList).map lowerWord with _ | ⟨word, rest⟩
  · rw [hrest, List.intercalate_singleton] at hletters
    cases hletters
  · rw [hrest, List.intercalate_cons_cons] at hletters
    cases hletters

end Text

/-! ### Identifiers -/

section

variable {convert : String → String} (isReserved : String → Bool)

/-- A name that is not empty has an identifier that is not, if marks are not lost. -/
theorem identifier_ne_empty (hmark : ∀ name, convert (escapeMark ++ name) ≠ "") {name : String}
    (hname : name ≠ "") : identifier convert isReserved name ≠ "" := by
  unfold identifier
  rw [if_neg hname]
  simp only
  generalize (if convert name = "" then convert (Text.spellOut name) else convert name) = cased
  by_cases hfree : (startsIdentifier cased && !isReserved cased) = true
  · rw [if_pos hfree]
    rintro rfl
    cases hfree
  · rw [if_neg hfree]
    exact hmark cased

theorem isName_identifier (hconvert : ∀ name, Text.IsName (convert name)) (name : String) :
    Text.IsName (identifier convert isReserved name) := by
  unfold identifier
  by_cases hname : name = ""
  · rw [if_pos hname]
    intro c hc
    cases hc
  · rw [if_neg hname]
    simp only
    have hcased : Text.IsName
        (if convert name = "" then convert (Text.spellOut name) else convert name) := by
      by_cases hempty : convert name = ""
      · rw [if_pos hempty]
        exact hconvert _
      · rw [if_neg hempty]
        exact hconvert _
    generalize (if convert name = "" then convert (Text.spellOut name) else convert name) = cased
      at hcased ⊢
    by_cases hfree : (startsIdentifier cased && !isReserved cased) = true
    · rw [if_pos hfree]
      exact hcased
    · rw [if_neg hfree]
      exact hconvert _

end

theorem identifier_pascalCase_ne_empty (isReserved : String → Bool) {name : String}
    (hname : name ≠ "") : identifier Text.pascalCase isReserved name ≠ "" :=
  identifier_ne_empty isReserved Text.pascalCase_escapeMark_ne_empty hname

theorem isName_enumMember (context : NameContext) (name : String) :
    Text.IsName (context.enumMember name) := by
  have hmember : ∃ source, context.enumMember name =
      if startsIdentifier (Text.pascalCase source) then Text.pascalCase source
      else Text.pascalCase (escapeMark ++ Text.pascalCase source) :=
    ⟨context.model.id.getD "EnumMember" ++ "_" ++ Text.pascalCase (Text.spellOut name), rfl⟩
  obtain ⟨source, hmember⟩ := hmember
  rw [hmember]
  split
  · exact Text.isName_pascalCase source
  · exact Text.isName_pascalCase _

/-! ### The default convention -/

namespace NameRules

variable {rules : NameRules} (hdefault : rules.convention = {})
include hdefault

theorem typeName_eq (context : NameContext) (name : String) :
    rules.convention.typeName context name =
      identifier Text.pascalCase context.isReserved name := by
  rw [hdefault]
  rfl

theorem fieldName_eq (context : NameContext) (name : String) :
    rules.convention.fieldName context name =
      identifier Text.snakeCase context.isReserved name := by
  rw [hdefault]
  rfl

theorem moduleName_eq (context : NameContext) (name : String) :
    rules.convention.moduleName context name =
      identifier Text.snakeCase context.isReserved name := by
  rw [hdefault]
  rfl

theorem isName_typeName (context : NameContext) (name : String) :
    Text.IsName (rules.convention.typeName context name) := by
  rw [typeName_eq hdefault]
  exact isName_identifier _ Text.isName_pascalCase name

theorem isName_fieldName (context : NameContext) (name : String) :
    Text.IsName (rules.convention.fieldName context name) := by
  rw [fieldName_eq hdefault]
  exact isName_identifier _ Text.isName_snakeCase name

theorem enumMember_eq (context : NameContext) (name : String) :
    rules.convention.enumMember context name = context.enumMember name := by
  rw [hdefault]

end NameRules

end Typewright
