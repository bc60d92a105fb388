/-
  Typewright/Proofs/Naming/Identifiers.lean
  =========================================
  **Names that can be used** — every name but the empty one becomes an identifier.

  A cased name is looked at once, and escaped if it does not stand.  What the escape
  gives is cased again, and not looked at again.  It need not be: the mark comes first
  in either casing, and no reserved word starts like it (`stands_identifier`).

  Whatever was escaped or spelled out, the result is a cased name.  So the identifiers
  of ASCII names have the form of one, which is told by a regular expression for each
  casing.
-/
import Mathlib.Computability.RegularExpressions
import Typewright.Proofs.Naming.FieldForms

namespace Typewright

open Text (pascalCase snakeCase spellOut IsAscii words lowerWord capitalizeWord)

/-! ### Patterns -/

namespace Text

def smallLetters : List Char := "abcdefghijklmnopqrstuvwxyz".toList

def capitals : List Char := "ABCDEFGHIJKLMNOPQRSTUVWXYZ".toList

def digits : List Char := "0123456789".toList

/-- One of the characters. -/
def anyOf : List Char → RegularExpression Char
  | [] => 0
  | c :: rest => .char c + anyOf rest

/-- The pattern `[a-z][a-z0-9]*(_[a-z0-9]+)*`. -/
def snakePattern : RegularExpression Char :=
  anyOf smallLetters * .star (anyOf (smallLetters ++ digits)) *
    .star (.char '_' * (anyOf (smallLetters ++ digits) * .star (anyOf (smallLetters ++ digits))))

/-- The pattern `[A-Z][A-Za-z0-9]*`. -/
def pascalPattern : RegularExpression Char :=
  anyOf capitals * .star (anyOf (capitals ++ (smallLetters ++ digits)))

theorem singleton_mem_anyOf {c : Char} {chars : List Char} (h : c ∈ chars) :
    [c] ∈ (anyOf chars).matches' := by
  induction chars with
  | nil => cases h
  | cons d rest ih =>
    rcases List.mem_cons.mp h with rfl | hrest
    · exact Or.inl rfl
    · exact Or.inr (ih hrest)

theorem mem_star_anyOf {text chars : List Char} (h : ∀ c ∈ text, c ∈ chars) :
    text ∈ (RegularExpression.star (anyOf chars)).matches' := by
  refine Language.mem_kstar.mpr ⟨text.map ([·]), ?_, ?_⟩
  · rw [← List.flatMap_def, List.flatMap_singleton']
  · intro part hpart
    obtain ⟨c, hc, rfl⟩ := List.mem_map.mp hpart
    exact singleton_mem_anyOf (h c hc)

/-- A character, and others after it. -/
theorem mem_anyOf_mul_star {c : Char} {rest firsts others : List Char} (hfirst : c ∈ firsts)
    (hrest : ∀ d ∈ rest, d ∈ others) :
    c :: rest ∈ (anyOf firsts * RegularExpression.star (anyOf others)).matches' :=
  Language.mem_mul.mpr ⟨[c], singleton_mem_anyOf hfirst, rest, mem_star_anyOf hrest, rfl⟩

/-! ### Cased ASCII names -/

/-- The two mappings of an ASCII word character, all of them looked at. -/
theorem mem_of_isWordChar_ascii : ∀ n < 128, isWordChar (Char.ofNat n) →
    (Char.ofNat n).toLower ∈ smallLetters ++ digits ∧
    (Char.ofNat n).toUpper ∈ capitals ++ digits := by decide

/-- Word characters of ASCII. -/
def IsAsciiWord (word : List Char) : Prop := ∀ c ∈ word, c.toNat < 128 ∧ isWordChar c

theorem isAsciiWord_of_mem_words {name : String} (hascii : IsAscii name) {word : List Char}
    (hword : word ∈ words name.toList) : IsAsciiWord word := fun c hc =>
  ⟨hascii c (mem_of_mem_words hword hc), isWordChar_of_mem_words hword hc⟩

namespace IsAsciiWord

variable {word : List Char} {c d : Char}

theorem mapped (h : IsAsciiWord word) (hc : c ∈ word) :
    c.toLower ∈ smallLetters ++ digits ∧ c.toUpper ∈ capitals ++ digits := by
  obtain ⟨hascii, hchar⟩ := h c hc
  have hmapped := mem_of_isWordChar_ascii c.toNat hascii
  rw [Char.ofNat_toNat] at hmapped
  exact hmapped hchar

theorem mem_lowerWord (h : IsAsciiWord word) (hd : d ∈ lowerWord word) :
    d ∈ smallLetters ++ digits := by
  obtain ⟨c, hc, rfl⟩ := mem_lowerWord_of_ascii (fun c hc => (h c hc).1) hd
  exact (h.mapped hc).1

/-- Only the first character is raised. -/
theorem capitalizeWord_cons (h : IsAsciiWord (c :: word)) :
    capitalizeWord (c :: word) = c.toUpper :: lowerWord word := by
  have hascii := (h c List.mem_cons_self).1
  simp only [capitalizeWord, toUppers, hascii, if_true, List.singleton_append]

theorem mem_capitalizeWord (h : IsAsciiWord word) (hd : d ∈ capitalizeWord word) :
    d ∈ capitals ++ (smallLetters ++ digits) := by
  cases word with
  | nil => cases hd
  | cons c rest =>
    rw [h.capitalizeWord_cons] at hd
    rcases List.mem_cons.mp hd with rfl | hrest
    · rcases List.mem_append.mp (h.mapped List.mem_cons_self).2 with hcapital | hdigit
      · exact List.mem_append_left _ hcapital
      · exact List.mem_append_right _ (List.mem_append_right _ hdigit)
    · have htail : IsAsciiWord rest := fun x hx => h x (List.mem_cons_of_mem c hx)
      exact List.mem_append_right _ (htail.mem_lowerWord hrest)

end IsAsciiWord

theorem isAscii_append {first second : String} (hfirst : IsAscii first)
    (hsecond : IsAscii second) : IsAscii (first ++ second) := by
  unfold IsAscii
  rw [String.toList_append, List.forall_mem_append]
  exact ⟨hfirst, hsecond⟩

section

variable {name : String} (hascii : IsAscii name)
include hascii

theorem isAscii_snakeCase : IsAscii (snakeCase name) := by
  have hsmall : ∀ c ∈ smallLetters ++ digits, c.toNat < 128 := forall_mem_of_all (by decide)
  intro d hd
  rw [snakeCase, String.toList_ofList] at hd
  rcases mem_intercalate hd with hjoin | ⟨word, hword, hmem⟩
  · obtain rfl := List.mem_singleton.mp hjoin
    decide
  · obtain ⟨raw, hraw, rfl⟩ := List.mem_map.mp hword
    exact hsmall d ((isAsciiWord_of_mem_words hascii hraw).mem_lowerWord hmem)

theorem mem_pascalCase_of_ascii {d : Char} (hd : d ∈ (pascalCase name).toList) :
    d ∈ capitals ++ (smallLetters ++ digits) := by
  rw [pascalCase, String.toList_ofList] at hd
  obtain ⟨word, hword, hmem⟩ := List.mem_flatMap.mp hd
  exact (isAsciiWord_of_mem_words hascii hword).mem_capitalizeWord hmem

theorem isAscii_pascalCase : IsAscii (pascalCase name) := by
  have hletters : ∀ c ∈ capitals ++ (smallLetters ++ digits), c.toNat < 128 :=
    forall_mem_of_all (by decide)
  exact fun d hd => hletters d (mem_pascalCase_of_ascii hascii hd)

/-- A small name of words is of the pattern if a letter starts it. -/
theorem snakeCase_mem_snakePattern (hstart : startsIdentifier (snakeCase name)) :
    (snakeCase name).toList ∈ snakePattern.matches' := by
  have hletter : ∀ c ∈ smallLetters ++ digits, (isLetter c || c == '_') → c ∈ smallLetters :=
    forall_mem_of_all (by decide)
  have hwords : ∀ part ∈ (words name.toList).map lowerWord, ∀ d ∈ part,
      d ∈ smallLetters ++ digits := by
    intro part hpart d hd
    obtain ⟨word, hword, rfl⟩ := List.mem_map.mp hpart
    exact (isAsciiWord_of_mem_words hascii hword).mem_lowerWord hd
  have hnil := nil_not_mem_map_lowerWord name.toList
  unfold startsIdentifier at hstart
  rw [snakeCase, String.toList_ofList] at hstart ⊢
  generalize (words name.toList).map lowerWord = parts at hwords hnil hstart ⊢
  cases parts with
  | nil => cases hstart
  | cons part rest =>
    cases part with
    | nil => exact absurd List.mem_cons_self hnil
    | cons c letters =>
      rw [intercalate_cons_eq] at hstart ⊢
      obtain ⟨hpart, hrest⟩ := List.forall_mem_cons.mp hwords
      have hfirst : c ∈ smallLetters := hletter c (hpart c List.mem_cons_self) hstart
      refine Language.mem_mul.mpr ⟨c :: letters, mem_anyOf_mul_star hfirst
        (fun d hd => hpart d (List.mem_cons_of_mem c hd)), _,
        Language.mem_kstar.mpr ⟨rest.map ('_' :: ·), rfl, ?_⟩, rfl⟩
      intro joined hjoined
      obtain ⟨word, hword, rfl⟩ := List.mem_map.mp hjoined
      obtain ⟨d, more, rfl⟩ := List.exists_cons_of_ne_nil
        fun hempty => hnil (List.mem_cons_of_mem _ (hempty ▸ hword))
      obtain ⟨hd, hmore⟩ := List.forall_mem_cons.mp (hrest _ hword)
      exact Language.mem_mul.mpr ⟨['_'], rfl, d :: more, mem_anyOf_mul_star hd hmore, rfl⟩

/-- A name of capitalized words is of the pattern if a letter starts it. -/
theorem pascalCase_mem_pascalPattern (hstart : startsIdentifier (pascalCase name)) :
    (pascalCase name).toList ∈ pascalPattern.matches' := by
  have hletter : ∀ c ∈ capitals ++ digits, (isLetter c || c == '_') → c ∈ capitals :=
    forall_mem_of_all (by decide)
  have hall := fun {d} (hd : d ∈ (pascalCase name).toList) => mem_pascalCase_of_ascii hascii hd
  have hnil := nil_not_mem_words name.toList
  unfold startsIdentifier at hstart
  rw [pascalCase, String.toList_ofList] at hstart hall ⊢
  cases hwords : words name.toList with
  | nil =>
    rw [hwords] at hstart
    cases hstart
  | cons word rest =>
    have hword : IsAsciiWord word := isAsciiWord_of_mem_words hascii (by simp [hwords])
    rw [hwords] at hstart hall hnil
    cases word with
    | nil => exact absurd List.mem_cons_self hnil
    | cons c letters =>
      rw [List.flatMap_cons, hword.capitalizeWord_cons, List.cons_append] at hstart hall ⊢
      have hfirst := hletter _ (hword.mapped List.mem_cons_self).2 hstart
      exact mem_anyOf_mul_star hfirst fun d hd => hall (List.mem_cons_of_mem _ hd)

end

end Text

/-! ### Identifiers -/

theorem Stands.usable {form : String} (h : Stands form) :
    form ≠ "" ∧ startsIdentifier form ∧ form ∉ reservedWords :=
  ⟨h.ne_empty, h.1, isReservedWord_eq_false_iff.mp h.2⟩

/-- Every name but the empty one has an identifier that stands, if marked names do. -/
theorem stands_identifier {convert : String → String}
    (hmark : ∀ name, Stands (convert (escapeMark ++ name))) {name : String} (hname : name ≠ "") :
    Stands (identifier convert isReservedWord name) := by
  unfold identifier
  rw [if_neg hname]
  simp only
  generalize (if convert name = "" then convert (spellOut name) else convert name) = cased
  by_cases hfree : (startsIdentifier cased && !isReservedWord cased) = true
  · rw [if_pos hfree]
    simpa [Stands] using hfree
  · rw [if_neg hfree]
    exact hmark cased

/-- The identifier of an ASCII name is the cased form of one. -/
theorem exists_identifier_eq {convert : String → String}
    (hconvert : ∀ {name}, IsAscii name → IsAscii (convert name)) (isReserved : String → Bool)
    {name : String} (hascii : IsAscii name) (hname : name ≠ "") :
    ∃ source, IsAscii source ∧ identifier convert isReserved name = convert source := by
  have hcased : ∃ source, IsAscii source ∧
      (if convert name = "" then convert (spellOut name) else convert name) = convert source := by
    split
    · exact ⟨spellOut name, Text.isAscii_spellOut hascii, rfl⟩
    · exact ⟨name, hascii, rfl⟩
  obtain ⟨source, hsource, heq⟩ := hcased
  unfold identifier
  rw [if_neg hname]
  simp only [heq]
  split
  · exact ⟨source, hsource, rfl⟩
  · exact ⟨escapeMark ++ convert source, Text.isAscii_append (by decide) (hconvert hsource), rfl⟩

theorem stands_snakeCase_escapeMark (name : String) : Stands (snakeCase (escapeMark ++ name)) := by
  rw [Text.snakeCase_escapeMark]
  exact stands_escaped (snakeCase name)

theorem stands_pascalCase_escapeMark (name : String) :
    Stands (pascalCase (escapeMark ++ name)) := by
  have hstart : startsIdentifier "Reserved" := by decide
  apply stands_of_mark hstart (by decide)
  rw [Text.pascalCase_escapeMark, String.toList_append]
  exact List.prefix_append _ _

/-- **Usable names.**  With the reserved words as they are, every name that is not empty
    has a type name, a field name and a module name that can be used: none is empty, each
    starts with a letter or `_`, and none is a reserved word.  Those of an ASCII name are
    of the patterns `[a-z][a-z0-9]*(_[a-z0-9]+)*`, for fields and modules, and
    `[A-Z][A-Za-z0-9]*`, for types. -/
theorem names_usable (context : NameContext) (hreserved : context.isReserved = isReservedWord)
    {name : String} (hname : name ≠ "") :
    (∀ result ∈ [context.typeName name, context.fieldName name, context.moduleName name],
      result ≠ "" ∧ startsIdentifier result ∧ result ∉ reservedWords) ∧
    (IsAscii name →
      (context.fieldName name).toList ∈ Text.snakePattern.matches' ∧
      (context.moduleName name).toList ∈ Text.snakePattern.matches' ∧
      (context.typeName name).toList ∈ Text.pascalPattern.matches') := by
  have hpascal := stands_identifier stands_pascalCase_escapeMark hname
  have hsnake := stands_identifier stands_snakeCase_escapeMark hname
  simp only [NameContext.typeName, NameContext.fieldName, NameContext.moduleName, hreserved]
  constructor
  · simp only [List.forall_mem_cons]
    exact ⟨hpascal.usable, hsnake.usable, hsnake.usable, List.forall_mem_nil _⟩
  · intro hascii
    have hfields :
        (identifier snakeCase isReservedWord name).toList ∈ Text.snakePattern.matches' := by
      obtain ⟨source, hsource, heq⟩ :=
        exists_identifier_eq Text.isAscii_snakeCase isReservedWord hascii hname
      rw [heq] at hsnake ⊢
      exact Text.snakeCase_mem_snakePattern hsource hsnake.1
    refine ⟨hfields, hfields, ?_⟩
    obtain ⟨source, hsource, heq⟩ :=
      exists_identifier_eq Text.isAscii_pascalCase isReservedWord hascii hname
    rw [heq] at hpascal ⊢
    exact Text.pascalCase_mem_pascalPattern hsource hpascal.1

/-- A reserved word in either casing is marked. -/
theorem names_usable_self :
    let context : NameContext := {}
    (context.isReserved = isReservedWord ∧ "self" ≠ "" ∧ IsAscii "self") ∧
    (context.typeName "self" = "ReservedSelf" ∧ context.fieldName "self" = "reserved_self") ∧
    (startsIdentifier (context.typeName "self") ∧ context.typeName "self" ∉ reservedWords) ∧
    (context.fieldName "self").toList ∈ Text.snakePattern.matches' ∧
    (context.typeName "self").toList ∈ Text.pascalPattern.matches' := by
  intro context
  have hascii : IsAscii "self" := by decide
  have hname : "self" ≠ "" := by decide
  obtain ⟨hresults, hpatterns⟩ := names_usable context rfl hname
  obtain ⟨hfield, -, htype⟩ := hpatterns hascii
  exact ⟨⟨rfl, hname, hascii⟩, by decide +kernel, (hresults _ List.mem_cons_self).2, hfield,
    htype⟩

end Typewright
