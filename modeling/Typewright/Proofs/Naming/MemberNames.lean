/-
  Typewright/Proofs/Naming/MemberNames.lean
  =========================================
  **Names of members** — why different numbers have different names.

  The name of a member is cased three times over: with its punctuation spelled out, after
  the name of its model, and after the mark of an escape if nothing else starts it like an
  identifier.  Casing drops what separates words and changes the case of letters.  It
  keeps the letters and digits, so in small letters they can be read off the name
  (`folded_pascalCase`).

  There, each character of a number stands as a word of its own, and the mark as another
  one.  None of these words starts another one, so the name is read in one way only
  (`enumMember_injOn`).  The mark may depend on the number where the model's name leaves
  nothing; then it is the first word that is read.
-/
import Typewright.Proofs.Json.NumberTexts
import Typewright.Proofs.Naming.Identifiers
import Typewright.Proofs.Text.CapitalWords

namespace Typewright

open Text (pascalCase spellOut spellChar IsAscii words lowerWord capitalizeWord isWordChar)

namespace Text

/-! ### Letters and digits -/

/-- The word characters of a text, in small letters. -/
def folded (text : List Char) : List Char := (text.filter isWordChar).map Char.toLower

theorem folded_append (first second : List Char) :
    folded (first ++ second) = folded first ++ folded second := by
  unfold folded
  rw [List.filter_append, List.map_append]

theorem folded_flatMap {α : Type} (text : List α) (write : α → List Char) :
    folded (text.flatMap write) = text.flatMap fun a => folded (write a) := by
  induction text with
  | nil => rfl
  | cons a rest ih => rw [List.flatMap_cons, folded_append, ih, List.flatMap_cons]

theorem folded_eq_nil_iff {text : List Char} : folded text = [] ↔ words text = [] := by
  rw [words_eq_nil_iff, folded, List.map_eq_nil_iff, List.filter_eq_nil_iff]
  simp

/-- The mappings of an ASCII character, all of them looked at. -/
theorem toLower_cased_ascii : ∀ n < 128,
    (Char.ofNat n).toUpper.toLower = (Char.ofNat n).toLower ∧
      (Char.ofNat n).toLower.toLower = (Char.ofNat n).toLower := by decide

namespace IsAsciiWord

variable {word : List Char} {c : Char}

theorem toLower_cased (h : IsAsciiWord word) (hc : c ∈ word) :
    c.toUpper.toLower = c.toLower ∧ c.toLower.toLower = c.toLower := by
  have hcased := toLower_cased_ascii c.toNat (h c hc).1
  rwa [Char.ofNat_toNat] at hcased

theorem lowerWord_eq (h : IsAsciiWord word) : lowerWord word = word.map Char.toLower := by
  fun_induction lowerWord word with
  | case1 => rfl
  | case2 => exact absurd (h 'Σ' (by simp)).1 (by decide)
  | case3 c rest _ ih =>
    have hascii := (h c List.mem_cons_self).1
    rw [ih fun d hd => h d (List.mem_cons_of_mem c hd), toLowers, if_pos hascii]
    rfl

/-- A capital differs from its letter in case alone. -/
theorem map_toLower_capitalizeWord (h : IsAsciiWord word) :
    (capitalizeWord word).map Char.toLower = word.map Char.toLower := by
  cases word with
  | nil => rfl
  | cons c rest =>
    have htail : IsAsciiWord rest := fun d hd => h d (List.mem_cons_of_mem c hd)
    rw [h.capitalizeWord_cons, htail.lowerWord_eq, List.map_cons, List.map_cons, List.map_map,
      (h.toLower_cased List.mem_cons_self).1]
    exact congrArg (_ :: ·) (List.map_congr_left fun d hd => (htail.toLower_cased hd).2)

end IsAsciiWord

section

variable {name : String} (hascii : IsAscii name)
include hascii

theorem map_toLower_pascalCase :
    (pascalCase name).toList.map Char.toLower = folded name.toList := by
  have hwords : ∀ word ∈ words name.toList,
      (capitalizeWord word).map Char.toLower = word.map Char.toLower := fun word hword =>
    (isAsciiWord_of_mem_words hascii hword).map_toLower_capitalizeWord
  rw [pascalCase, String.toList_ofList, List.map_flatMap, folded, ← flatten_words,
    List.map_flatten, List.flatMap_def]
  exact congrArg List.flatten (List.map_congr_left hwords)

/-- Casing keeps letters and digits, but for their case. -/
theorem folded_pascalCase : folded (pascalCase name).toList = folded name.toList := by
  have hletters : ∀ c ∈ capitals ++ (smallLetters ++ digits), isWordChar c :=
    forall_mem_of_all (by decide)
  have hkept : (pascalCase name).toList.filter isWordChar = (pascalCase name).toList :=
    List.filter_eq_self.mpr fun c hc => hletters c (mem_pascalCase_of_ascii hascii hc)
  rw [folded, hkept, map_toLower_pascalCase hascii]

end

/-! ### Symbols of numerals -/

theorem isAscii_of_isNumeral {text : String} (h : IsNumeral text) : IsAscii text := by
  have hascii : ∀ c ∈ numeralChars, c.toNat < 128 := forall_mem_of_all (by decide)
  exact fun c hc => hascii c (h c hc)

/-- What a character of a number, or else the mark of an escape, leaves in a name. -/
def symbolCode : Option Char → List Char
  | none => folded escapeMark.toList
  | some c => folded (spellChar c)

theorem folded_spellOut (text : String) :
    folded (spellOut text).toList = (text.toList.map some).flatMap symbolCode := by
  rw [spellOut, String.toList_ofList, folded_flatMap, List.flatMap_map]
  rfl

/-- The mark, and the characters of numbers. -/
def symbols : List (Option Char) := none :: numeralChars.map some

/-- No symbol is written as nothing, and none as what another one starts with. -/
theorem symbolCode_free : (∀ a ∈ symbols, symbolCode a ≠ []) ∧
    ∀ a ∈ symbols, ∀ b ∈ symbols, symbolCode a <+: symbolCode b → a = b := by
  decide +kernel

/-- What is written by a prefix code can be read in one way only. -/
theorem flatMap_injOn {α β : Type} {code : α → List β} {alphabet : List α}
    (hne : ∀ a ∈ alphabet, code a ≠ [])
    (hfree : ∀ a ∈ alphabet, ∀ b ∈ alphabet, code a <+: code b → a = b) :
    Set.InjOn (List.flatMap code) {text | ∀ a ∈ text, a ∈ alphabet} := by
  intro first hfirst second hsecond heq
  induction first generalizing second with
  | nil =>
    cases second with
    | nil => rfl
    | cons b rest =>
      have hempty := (List.append_eq_nil_iff.mp heq.symm).1
      exact absurd hempty (hne b (hsecond b List.mem_cons_self))
  | cons a more ih =>
    cases second with
    | nil =>
      have hempty := (List.append_eq_nil_iff.mp heq).1
      exact absurd hempty (hne a (hfirst a List.mem_cons_self))
    | cons b rest =>
      obtain ⟨ha, hmore⟩ := List.forall_mem_cons.mp hfirst
      obtain ⟨hb, hrest⟩ := List.forall_mem_cons.mp hsecond
      rw [List.flatMap_cons, List.flatMap_cons] at heq
      have hleft : code a <+: code b ++ rest.flatMap code := heq ▸ List.prefix_append _ _
      have hsame : a = b := by
        rcases List.prefix_or_prefix_of_prefix hleft (List.prefix_append _ _) with hab | hba
        · exact hfree a ha b hb hab
        · exact (hfree b hb a ha hba).symm
      subst hsame
      rw [ih hmore hrest (List.append_cancel_left heq)]

theorem flatMap_symbolCode_injOn :
    Set.InjOn (List.flatMap symbolCode) {text | ∀ a ∈ text, a ∈ symbols} :=
  flatMap_injOn symbolCode_free.1 symbolCode_free.2

end Text

/-! ### Names of members -/

theorem startsIdentifier_append {first second : String} (hfirst : first ≠ "") :
    startsIdentifier (first ++ second) = startsIdentifier first := by
  unfold startsIdentifier
  rw [String.toList_append]
  cases hletters : first.toList with
  | nil => exact absurd (String.toList_eq_nil_iff.mp hletters) hfirst
  | cons c rest => rfl

namespace NameContext

open Text (folded symbols symbolCode)

variable (context : NameContext)

/-- The name of the model, or what stands for it in the names of members. -/
def owner : String := context.model.id.getD "EnumMember"

/-- The name of a member, before it is escaped. -/
def casedMember (name : String) : String :=
  pascalCase (context.owner ++ "_" ++ pascalCase (spellOut name))

theorem enumMember_eq (name : String) :
    context.enumMember name =
      if startsIdentifier (context.casedMember name) then context.casedMember name
      else pascalCase (escapeMark ++ context.casedMember name) := rfl

theorem casedMember_eq (name : String) :
    context.casedMember name =
      pascalCase context.owner ++ pascalCase (pascalCase (spellOut name)) :=
  Text.pascalCase_joint _ _

/-- The mark that the name of a member needs, as a symbol. -/
def memberMark (name : String) : List (Option Char) :=
  if startsIdentifier (context.casedMember name) then [] else [none]

theorem mem_symbols {name : String} (hname : IsNumeral name) :
    ∀ a ∈ context.memberMark name ++ name.toList.map some, a ∈ symbols := by
  intro a ha
  rcases List.mem_append.mp ha with hmark | hchar
  · unfold memberMark at hmark
    split at hmark
    · cases hmark
    · obtain rfl := List.mem_singleton.mp hmark
      exact List.mem_cons_self
  · obtain ⟨c, hc, rfl⟩ := List.mem_map.mp hchar
    exact List.mem_cons_of_mem _ (List.mem_map_of_mem (hname c hc))

/-- The mark of a member and its characters are read in one way only. -/
theorem eq_of_memberMark_append {first second : String}
    (heq : context.memberMark first ++ first.toList.map some =
      context.memberMark second ++ second.toList.map some) : first = second := by
  have hdrop : ∀ name, (context.memberMark name ++ name.toList.map some).filterMap id =
      name.toList := by
    intro name
    unfold memberMark
    split <;> simp
  have hletters := congrArg (List.filterMap id) heq
  rw [hdrop, hdrop] at hletters
  exact String.toList_inj.mp hletters

variable {context}

/-- The letters and digits of a member's name: those of the mark, if it is needed, those of
    the model's name, and those of the characters that the member is written with. -/
theorem folded_enumMember (howner : IsAscii context.owner) {name : String} (hname : IsAscii name) :
    folded (context.enumMember name).toList =
      (context.memberMark name).flatMap symbolCode ++ folded context.owner.toList ++
        (name.toList.map some).flatMap symbolCode := by
  have hspelled := Text.isAscii_spellOut hname
  have hinner := Text.isAscii_pascalCase hspelled
  have hcased : folded (context.casedMember name).toList =
      folded context.owner.toList ++ (name.toList.map some).flatMap symbolCode := by
    rw [casedMember_eq, String.toList_append, Text.folded_append, Text.folded_pascalCase howner,
      Text.folded_pascalCase hinner, Text.folded_pascalCase hspelled, Text.folded_spellOut]
  have hascii : IsAscii (context.casedMember name) := by
    rw [casedMember_eq]
    exact Text.isAscii_append (Text.isAscii_pascalCase howner) (Text.isAscii_pascalCase hinner)
  have hmarked : IsAscii (escapeMark ++ context.casedMember name) :=
    Text.isAscii_append (by decide) hascii
  rw [enumMember_eq, memberMark, List.append_assoc, ← hcased]
  by_cases hstarts : startsIdentifier (context.casedMember name)
  · rw [if_pos hstarts, if_pos hstarts, List.flatMap_nil, List.nil_append]
  · rw [if_neg hstarts, if_neg hstarts, Text.folded_pascalCase hmarked, String.toList_append,
      Text.folded_append, List.flatMap_singleton]
    rfl

/-- Where the model's name leaves something, the mark depends on it alone. -/
theorem memberMark_eq (howner : pascalCase context.owner ≠ "") (first second : String) :
    context.memberMark first = context.memberMark second := by
  unfold memberMark
  rw [casedMember_eq, casedMember_eq, startsIdentifier_append howner,
    startsIdentifier_append howner]

theorem isAscii_owner (hid : ∀ id ∈ context.model.id, IsAscii id) : IsAscii context.owner := by
  unfold owner
  cases hmodel : context.model.id with
  | none => decide
  | some id => exact hid id hmodel

/-- Different numbers have different names. -/
theorem enumMember_injOn (hid : ∀ id ∈ context.model.id, IsAscii id) :
    Set.InjOn context.enumMember {name | IsNumeral name} := by
  have howner := isAscii_owner hid
  intro first hfirst second hsecond heq
  have hfolded := congrArg (fun name : String => folded name.toList) heq
  simp only [folded_enumMember howner (Text.isAscii_of_isNumeral hfirst),
    folded_enumMember howner (Text.isAscii_of_isNumeral hsecond)] at hfolded
  apply context.eq_of_memberMark_append
  apply Text.flatMap_symbolCode_injOn (context.mem_symbols hfirst) (context.mem_symbols hsecond)
  simp only [List.flatMap_append]
  by_cases hempty : pascalCase context.owner = ""
  · -- nothing stands between the mark and the characters
    have hnone := Text.folded_eq_nil_iff.mpr (Text.pascalCase_eq_empty_iff.mp hempty)
    simpa only [hnone, List.append_nil] using hfolded
  · rw [memberMark_eq hempty first second] at hfolded ⊢
    rw [List.append_cancel_left hfolded]

end NameContext

end Typewright
