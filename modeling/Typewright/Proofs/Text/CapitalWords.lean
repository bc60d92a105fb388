/-
  Typewright/Proofs/Text/CapitalWords.lean
  ========================================
  **Capitalized words** — what they start with, and which texts have none.

  The capital form of a word character starts with a word character, and never with a
  small letter of ASCII.  So casing keeps something of every text that has a word, even
  if it is done twice, and a name of capitalized words starts like no word in small
  letters.

  A text is *blank* if spelling it out and casing it leaves nothing: if it has neither
  word characters nor punctuation that has a name.

  The capital forms are a table, which is checked entry by entry.
-/
import Typewright.Proofs.Text.SmallWords

namespace Typewright.Text

/-! ### Capital forms -/

/-- A character that a capitalized word may start with. -/
def startsCapitalized (c : Char) : Bool := isWordChar c && !c.isLower

/-- One span of step one holds all code points from `first` to `last`. -/
def Span.covers (s : Span) (first last : Nat) : Bool :=
  Nat.ble s.first first && (Nat.ble last s.last && Nat.beq s.step 1)

/-- The images of the span may start capitalized words: they are letters beyond ASCII, in
    one span, or each of them is looked at. -/
def Shift.raises (s : Shift) : Bool :=
  letterSpans.any (·.covers (s.span.first + s.offset).toNat (s.span.last + s.offset).toNat) ||
    (List.range ((s.span.last - s.span.first) / s.span.step + 1)).all fun n =>
      startsCapitalized (Char.ofNat ((s.span.first + n * s.span.step : Nat) + s.offset).toNat)

theorem upperShifts_raise : ∀ s ∈ upperShifts, s.raises := by decide +kernel

theorem letterSpans_beyond : ∀ s ∈ letterSpans,
    128 ≤ s.first ∧ (s.last < 0xd800 ∨ 0xdfff < s.first ∧ s.last < 0x110000) := by decide +kernel

theorem upperExpansions_raise :
    ∀ e ∈ upperExpansions, (e.2.head?.map Char.ofNat).any startsCapitalized := by decide +kernel

theorem startsCapitalized_ascii : ∀ n < 128, isWordChar (Char.ofNat n) →
    startsCapitalized (Char.ofNat n).toUpper := by decide

theorem isLower_of_le {c : Char} (hc : 128 ≤ c.toNat) : c.isLower = false := by
  rw [Bool.eq_false_iff]
  intro hlower
  have hlast : c.toNat ≤ 'z'.toNat := of_decide_eq_true (Bool.and_eq_true_iff.mp hlower).2
  have hcode : 'z'.toNat = 122 := rfl
  omega

/-- A code point in a span of step one is a letter. -/
theorem startsCapitalized_of_covers {s : Span} (hs : s ∈ letterSpans) {first last n : Nat}
    (hcovers : s.covers first last) (hfirst : first ≤ n) (hlast : n ≤ last) :
    startsCapitalized (Char.ofNat n) := by
  simp only [Span.covers, Bool.and_eq_true, Nat.ble_eq, Nat.beq_eq] at hcovers
  obtain ⟨hlow, hhigh, hstep⟩ := hcovers
  obtain ⟨hbeyond, hvalid⟩ := letterSpans_beyond s hs
  have hcode : (Char.ofNat n).toNat = n := by
    have hchar : n.isValidChar := by
      unfold Nat.isValidChar
      omega
    rw [show Char.ofNat n = Char.ofNatAux n hchar from dif_pos hchar]
    rfl
  have hcontains : s.contains n := by
    simp only [Span.contains, hstep, Nat.mod_one, Bool.and_eq_true, decide_eq_true_eq]
    exact ⟨⟨by omega, by omega⟩, rfl⟩
  have hletter : isLetter (Char.ofNat n) := by
    unfold isLetter
    rw [hcode, if_neg (by omega)]
    exact List.any_eq_true.mpr ⟨s, hs, hcontains⟩
  unfold startsCapitalized isWordChar
  rw [hletter, isLower_of_le (by omega)]
  rfl

theorem Shift.startsCapitalized {s : Shift} (h : s.raises) {code : Nat}
    (hcode : s.span.contains code) :
    startsCapitalized (Char.ofNat (code + s.offset).toNat) := by
  simp only [Span.contains, Bool.and_eq_true, decide_eq_true_eq, beq_iff_eq] at hcode
  obtain ⟨⟨hfirst, hlast⟩, hstep⟩ := hcode
  rcases Bool.or_eq_true_iff.mp h with hspan | heach
  · obtain ⟨t, ht, hcovers⟩ := List.any_eq_true.mp hspan
    exact startsCapitalized_of_covers ht hcovers (by omega) (by omega)
  · -- the code point is the `n`-th one of the span
    have hplace : (code - s.span.first) / s.span.step ∈
        List.range ((s.span.last - s.span.first) / s.span.step + 1) := by
      rw [List.mem_range, Nat.lt_succ_iff]
      exact Nat.div_le_div_right (by omega)
    have himage := List.all_eq_true.mp heach _ hplace
    have hsame : s.span.first + (code - s.span.first) / s.span.step * s.span.step = code := by
      rw [Nat.div_mul_cancel (Nat.dvd_of_mod_eq_zero hstep)]
      omega
    rwa [hsame] at himage

/-- The capital form of a word character starts a capitalized word. -/
theorem exists_toUppers_eq {c : Char} (hc : isWordChar c) :
    ∃ first rest, toUppers c = first :: rest ∧ startsCapitalized first := by
  unfold toUppers
  split
  · next hascii =>
    have hupper := startsCapitalized_ascii c.toNat hascii (by rwa [Char.ofNat_toNat])
    rw [Char.ofNat_toNat] at hupper
    exact ⟨_, [], rfl, hupper⟩
  · next hbeyond =>
    split
    · next code codes hfind =>
      have hraise := upperExpansions_raise _ (List.mem_of_find?_eq_some hfind)
      cases codes with
      | nil => cases hraise
      | cons first rest => exact ⟨Char.ofNat first, rest.map Char.ofNat, rfl, hraise⟩
    · refine ⟨_, [], rfl, ?_⟩
      unfold shifted
      split
      · next s hfind =>
        have hraise := upperShifts_raise s (List.mem_of_find?_eq_some hfind)
        have hcontains := List.find?_some hfind
        exact s.startsCapitalized hraise hcontains
      · unfold Text.startsCapitalized
        rw [hc, isLower_of_le (by omega)]
        rfl

/-! ### Words of a text -/

theorem words_eq_nil_iff {text : List Char} :
    words text = [] ↔ ∀ c ∈ text, isWordChar c = false := by
  have hfilter : words text = [] ↔ text.filter isWordChar = [] := by
    rw [← flatten_words, List.flatten_eq_nil_iff]
    constructor
    · intro hnil word hword
      rw [hnil] at hword
      cases hword
    · intro hall
      rw [List.eq_nil_iff_forall_not_mem]
      intro word hword
      rw [hall word hword] at hword
      exact nil_not_mem_words text hword
  rw [hfilter, List.filter_eq_nil_iff]
  simp

/-! ### Capitalized names -/

theorem pascalCase_joint (first second : String) :
    pascalCase (first ++ "_" ++ second) = pascalCase first ++ pascalCase second := by
  have hletters : (first ++ "_" ++ second).toList = first.toList ++ '_' :: second.toList := by
    rw [String.toList_append, String.toList_append, List.append_assoc]
    rfl
  unfold pascalCase
  rw [hletters, words_joint, List.flatMap_append, String.ofList_append]

/-- A capitalized name has a first character if there is a word in it. -/
theorem exists_pascalCase_eq {text : String} (h : words text.toList ≠ []) :
    ∃ first rest, (pascalCase text).toList = first :: rest ∧ startsCapitalized first := by
  obtain ⟨word, more, hwords⟩ := List.exists_cons_of_ne_nil h
  have hmem : word ∈ words text.toList := by simp [hwords]
  cases word with
  | nil => exact absurd hmem (nil_not_mem_words _)
  | cons c letters =>
    obtain ⟨first, rest, hupper, hstarts⟩ :=
      exists_toUppers_eq (isWordChar_of_mem_words hmem List.mem_cons_self)
    refine ⟨first, rest ++ lowerWord letters ++ more.flatMap capitalizeWord, ?_, hstarts⟩
    rw [pascalCase, String.toList_ofList, hwords, List.flatMap_cons, capitalizeWord, hupper]
    simp

theorem pascalCase_eq_empty_iff {text : String} :
    pascalCase text = "" ↔ words text.toList = [] := by
  constructor
  · intro hempty
    by_contra hwords
    obtain ⟨first, rest, hletters, -⟩ := exists_pascalCase_eq hwords
    rw [hempty] at hletters
    cases hletters
  · intro hwords
    rw [pascalCase, hwords]
    rfl

/-- A capitalized name has a word in it, so casing it again leaves something. -/
theorem pascalCase_pascalCase_eq_empty_iff {text : String} :
    pascalCase (pascalCase text) = "" ↔ pascalCase text = "" := by
  constructor
  · intro hempty
    by_contra hne
    obtain ⟨first, rest, hletters, hstarts⟩ :=
      exists_pascalCase_eq (mt pascalCase_eq_empty_iff.mpr hne)
    have hword := words_eq_nil_iff.mp (pascalCase_eq_empty_iff.mp hempty) first (by simp [hletters])
    unfold startsCapitalized at hstarts
    rw [hword] at hstarts
    cases hstarts
  · intro hempty
    rw [hempty]
    rfl

/-! ### Blank texts -/

/-- Neither a word character nor punctuation that has a name is in the text. -/
def IsBlank (text : String) : Prop :=
  ∀ c ∈ text.toList, isWordChar c = false ∧ punctuationName c = none

instance (text : String) : Decidable (IsBlank text) := List.decidableBAll _ text.toList

/-- The name of punctuation is a word. -/
theorem isWordChar_of_punctuationName {c : Char} {name : String}
    (h : punctuationName c = some name) : name.toList.any isWordChar := by
  unfold punctuationName at h
  split at h
  all_goals cases h <;> decide

/-- What blank texts are spelled out to has no words, and only that of blank texts. -/
theorem pascalCase_spellOut_eq_empty_iff {text : String} :
    pascalCase (spellOut text) = "" ↔ IsBlank text := by
  have hspelled : pascalCase (spellOut text) = "" ↔
      ∀ c ∈ text.toList, ∀ d ∈ spellChar c, isWordChar d = false := by
    rw [pascalCase_eq_empty_iff, words_eq_nil_iff, spellOut, String.toList_ofList]
    simp only [List.mem_flatMap]
    constructor
    · intro h c hc d hd
      exact h d ⟨c, hc, hd⟩
    · rintro h d ⟨c, hc, hd⟩
      exact h c hc d hd
  rw [hspelled]
  refine forall₂_congr fun c _ => ?_
  cases hname : punctuationName c with
  | none => simp [spellChar, hname]
  | some name =>
    obtain ⟨d, hd, hword⟩ := List.any_eq_true.mp (isWordChar_of_punctuationName hname)
    simp only [spellChar, hname, reduceCtorEq, and_false, iff_false]
    intro hnone
    have hfalse := hnone d (by simp [hd])
    rw [hword] at hfalse
    cases hfalse

/-- Casing leaves nothing of a blank text. -/
theorem IsBlank.pascalCase_eq {text : String} (h : IsBlank text) : pascalCase text = "" :=
  pascalCase_eq_empty_iff.mpr (words_eq_nil_iff.mpr fun c hc => (h c hc).1)

end Typewright.Text
