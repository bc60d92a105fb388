/-
  Typewright/Proofs/Text/SmallWords.lean
  ======================================
  **Small words** — names that casing leaves as they are.

  A word is *small* if nothing in it is a capital or is lowered to something else.
  Small words joined by `_` are taken apart into themselves and joined again, so
  casing a second time changes nothing (`snakeCase_snakeCase`).  The words of an
  ASCII name are small once they are lowered.  Those of other names need not be: some
  capitals have no small letter, and a lowered `İ` holds a mark that ends a word.

  What is put behind a name shows at the end of its cased form, whatever stands before
  it (`suffix_snakeCase`).
-/
import Mathlib.Data.List.Basic
import Typewright.Proofs.Naming.Convention

namespace Typewright.Text

/-! ### No word is empty -/

theorem nil_mem_consHead_iff {α : Type} {a : α} {ps : List (List α)} :
    [] ∈ consHead a ps ↔ [] ∈ ps.tail := by
  cases ps <;> simp [consHead]

theorem tail_consHead {α : Type} (a : α) (ps : List (List α)) : (consHead a ps).tail = ps.tail := by
  cases ps <;> rfl

/-- Only the first word of a run may be empty, and only after a capital. -/
theorem nil_not_mem_splitRun (mode : WordMode) (run : List Char) :
    [] ∉ (splitRun mode run).tail ∧ (mode ≠ .upper → [] ∉ splitRun mode run) := by
  fun_induction splitRun mode run with
  | case1 => simp
  | case2 => simp
  | case3 mode c n rest hends ih =>
    have hrest := ih.2 (by decide)
    exact ⟨hrest, fun _ => by simp [hrest]⟩
  | case4 mode c n rest _ hends ih =>
    refine ⟨?_, fun hmode => absurd hends.1 hmode⟩
    rw [List.tail_cons, nil_mem_consHead_iff]
    exact ih.1
  | case5 mode c n rest _ _ ih =>
    rw [tail_consHead, nil_mem_consHead_iff]
    exact ⟨ih.1, fun _ => ih.1⟩

theorem nil_not_mem_words (text : List Char) : [] ∉ words text := by
  intro hnil
  obtain ⟨run, -, hmem⟩ := List.mem_flatMap.mp hnil
  exact (nil_not_mem_splitRun .start run).2 (by decide) hmem

theorem toLowers_ne_nil (c : Char) : toLowers c ≠ [] := by
  unfold toLowers
  split
  · simp
  · split <;> simp

theorem lowerWord_eq_nil_iff {word : List Char} : lowerWord word = [] ↔ word = [] := by
  fun_cases lowerWord word with
  | case1 => simp
  | case2 => simp
  | case3 c rest => simp [toLowers_ne_nil]

/-- Lowered words are not empty either. -/
theorem nil_not_mem_map_lowerWord (text : List Char) : [] ∉ (words text).map lowerWord := by
  intro hnil
  obtain ⟨word, hword, hempty⟩ := List.mem_map.mp hnil
  rw [lowerWord_eq_nil_iff.mp hempty] at hword
  exact nil_not_mem_words text hword

theorem intercalate_eq_nil_iff {α : Type} {joint : List α} {parts : List (List α)}
    (hparts : [] ∉ parts) : joint.intercalate parts = [] ↔ parts = [] := by
  cases parts with
  | nil => simp
  | cons part rest =>
    have hpart : part ≠ [] := fun h => hparts (by simp [h])
    cases rest with
    | nil => simp [hpart]
    | cons next rest => simp [List.intercalate_cons_cons, hpart]

theorem snakeCase_eq_empty_iff {name : String} : snakeCase name = "" ↔ words name.toList = [] := by
  unfold snakeCase
  rw [String.ofList_eq_empty_iff, intercalate_eq_nil_iff (nil_not_mem_map_lowerWord _),
    List.map_eq_nil_iff]

/-- The mark alone, or with a name after it. -/
def escaped (name : String) : String := if name = "" then "reserved" else escapeMark ++ name

theorem snakeCase_escapeMark (name : String) :
    snakeCase (escapeMark ++ name) = escaped (snakeCase name) := by
  have hword : lowerWord "reserved".toList = "reserved".toList := by decide
  unfold escaped
  by_cases hempty : snakeCase name = ""
  · rw [if_pos hempty]
    unfold snakeCase
    rw [words_escapeMark, snakeCase_eq_empty_iff.mp hempty]
    rfl
  · rw [if_neg hempty]
    obtain ⟨word, rest, hwords⟩ := List.exists_cons_of_ne_nil (mt snakeCase_eq_empty_iff.mpr hempty)
    unfold snakeCase
    rw [words_escapeMark, hwords, List.map_cons, List.map_cons, hword, List.intercalate_cons_cons,
      String.ofList_append]
    rfl

/-! ### Small words -/

/-- A word that is taken apart and lowered into itself. -/
structure Small (word : List Char) : Prop where
  ne_nil : word ≠ []
  isWordChar : ∀ c ∈ word, isWordChar c
  notUpper : ∀ c ∈ word, isUppercase c = false
  lowered : ∀ c ∈ word, toLowers c = [c]

instance (word : List Char) : Decidable (Small word) :=
  decidable_of_iff
    (word ≠ [] ∧ word.all fun c => isWordChar c && !isUppercase c && toLowers c == [c]) <| by
    simp only [List.all_eq_true, Bool.and_eq_true, Bool.not_eq_true', beq_iff_eq]
    constructor
    · rintro ⟨hne, hall⟩
      exact ⟨hne, fun c hc => (hall c hc).1.1, fun c hc => (hall c hc).1.2,
        fun c hc => (hall c hc).2⟩
    · intro h
      exact ⟨h.ne_nil, fun c hc => ⟨⟨h.isWordChar c hc, h.notUpper c hc⟩, h.lowered c hc⟩⟩

theorem Small.splitRun {word : List Char} (h : Small word) (mode : WordMode) :
    splitRun mode word = [word] := by
  have hupper := h.notUpper
  have hne := h.ne_nil
  clear h
  fun_induction Text.splitRun mode word with
  | case1 => exact absurd rfl hne
  | case2 => rfl
  | case3 mode c n rest hends ih => simp [hupper n (by simp)] at hends
  | case4 mode c n rest _ hends ih => simp [hupper c (by simp)] at hends
  | case5 mode c n rest _ _ ih =>
    rw [ih (fun d hd => hupper d (List.mem_cons_of_mem c hd)) (by simp)]
    rfl

theorem Small.lowerWord {word : List Char} (h : Small word) : lowerWord word = word := by
  have hupper := h.notUpper
  have hlowered := h.lowered
  clear h
  fun_induction Text.lowerWord word with
  | case1 => rfl
  | case2 => exact absurd (hupper 'Σ' (by simp)) (by decide)
  | case3 c rest _ ih =>
    rw [hlowered c (by simp), ih (fun d hd => hupper d (List.mem_cons_of_mem c hd))
      fun d hd => hlowered d (List.mem_cons_of_mem c hd)]
    rfl

theorem Small.words {word : List Char} (h : Small word) : words word = [word] := by
  have hfree : ∀ c ∈ word, (!Text.isWordChar c) = false := by
    intro c hc
    rw [h.isWordChar c hc]
    rfl
  rw [Text.words, wordRuns, pieces_eq_singleton _ hfree, List.flatMap_singleton]
  exact h.splitRun .start

/-- Small words that are joined are the words of the whole. -/
theorem words_intercalate {parts : List (List Char)} (hsmall : ∀ part ∈ parts, Small part) :
    words (['_'].intercalate parts) = parts := by
  induction parts with
  | nil => rfl
  | cons part rest ih =>
    have hpart := (hsmall part List.mem_cons_self).words
    have hrest := ih fun p hp => hsmall p (List.mem_cons_of_mem part hp)
    cases rest with
    | nil => rw [List.intercalate_singleton, hpart]
    | cons next rest =>
      rw [List.intercalate_cons_cons, List.append_assoc, List.singleton_append, words_joint, hpart,
        hrest]
      rfl

theorem snakeCase_of_small {name : String}
    (hsmall : ∀ word ∈ (words name.toList).map lowerWord, Small word) :
    snakeCase (snakeCase name) = snakeCase name := by
  have hlowered : ((words name.toList).map lowerWord).map lowerWord =
      (words name.toList).map lowerWord := by
    conv_rhs => rw [← List.map_id ((words name.toList).map lowerWord)]
    exact List.map_congr_left fun word hword => (hsmall word hword).lowerWord
  have hwords : words (snakeCase name).toList = (words name.toList).map lowerWord := by
    rw [snakeCase, String.toList_ofList, words_intercalate hsmall]
  unfold snakeCase at hwords ⊢
  rw [hwords, hlowered]

/-! ### ASCII names -/

/-- Characters that are looked at one by one. -/
theorem forall_mem_of_all {p : Char → Prop} [DecidablePred p] {chars : List Char}
    (h : chars.all fun c => decide (p c)) : ∀ c ∈ chars, p c := by
  simpa using h

/-- A text without characters beyond ASCII. -/
def IsAscii (text : String) : Prop := ∀ c ∈ text.toList, c.toNat < 128

-- The list is what is looked at, not all the characters that there are.
instance (text : String) : Decidable (IsAscii text) := List.decidableBAll _ text.toList

/-- The small forms of ASCII word characters, all of them looked at. -/
theorem small_toLower : ∀ n < 128, isWordChar (Char.ofNat n) →
    isWordChar (Char.ofNat n).toLower ∧ isUppercase (Char.ofNat n).toLower = false ∧
      toLowers (Char.ofNat n).toLower = [(Char.ofNat n).toLower] := by decide

theorem mem_of_mem_words {text word : List Char} {c : Char} (hword : word ∈ words text)
    (hc : c ∈ word) : c ∈ text := (of_mem_words hword hc).1

theorem mem_lowerWord_of_ascii {word : List Char} (hascii : ∀ c ∈ word, c.toNat < 128) {d : Char}
    (hd : d ∈ lowerWord word) : ∃ c ∈ word, d = c.toLower := by
  fun_induction lowerWord word with
  | case1 => cases hd
  | case2 => exact absurd (hascii 'Σ' (by simp)) (by decide)
  | case3 c rest _ ih =>
    rcases List.mem_append.mp hd with hfirst | hrest
    · simp only [toLowers, hascii c (by simp), if_true, List.mem_singleton] at hfirst
      exact ⟨c, by simp, hfirst⟩
    · obtain ⟨x, hx, heq⟩ := ih (fun x hx => hascii x (List.mem_cons_of_mem c hx)) hrest
      exact ⟨x, List.mem_cons_of_mem c hx, heq⟩

/-- The words of an ASCII name are small once they are lowered. -/
theorem small_lowerWord {name : String} (hascii : IsAscii name) {word : List Char}
    (hword : word ∈ words name.toList) : Small (lowerWord word) := by
  have hlower : ∀ d ∈ lowerWord word,
      isWordChar d ∧ isUppercase d = false ∧ toLowers d = [d] := by
    intro d hd
    obtain ⟨c, hc, rfl⟩ :=
      mem_lowerWord_of_ascii (fun c hc => hascii c (mem_of_mem_words hword hc)) hd
    have hsmall := small_toLower c.toNat (hascii c (mem_of_mem_words hword hc))
    rw [Char.ofNat_toNat] at hsmall
    exact hsmall (isWordChar_of_mem_words hword hc)
  have hne : word ≠ [] := by
    rintro rfl
    exact nil_not_mem_words _ hword
  exact {
    ne_nil := mt lowerWord_eq_nil_iff.mp hne
    isWordChar := fun d hd => (hlower d hd).1
    notUpper := fun d hd => (hlower d hd).2.1
    lowered := fun d hd => (hlower d hd).2.2 }

/-- Casing an ASCII name a second time changes nothing. -/
theorem snakeCase_snakeCase {name : String} (hascii : IsAscii name) :
    snakeCase (snakeCase name) = snakeCase name := by
  apply snakeCase_of_small
  intro word hword
  obtain ⟨raw, hraw, rfl⟩ := List.mem_map.mp hword
  exact small_lowerWord hascii hraw

/-- The names of ASCII punctuation are ASCII. -/
theorem isAscii_spellChar : ∀ n < 128, (spellChar (Char.ofNat n)).all (·.toNat < 128) := by decide

theorem isAscii_spellOut {name : String} (hascii : IsAscii name) : IsAscii (spellOut name) := by
  intro d hd
  rw [spellOut, String.toList_ofList] at hd
  obtain ⟨c, hc, hmem⟩ := List.mem_flatMap.mp hd
  have hspelled := isAscii_spellChar c.toNat (hascii c hc)
  rw [Char.ofNat_toNat, List.all_eq_true] at hspelled
  exact of_decide_eq_true (hspelled d hmem)

/-! ### Endings -/

/-- The last word but those in `more` ends in `ending`, and these follow it. -/
def EndIn (ending : List Char) (more ps : List (List Char)) : Prop :=
  ∃ init first, ps = init ++ (first ++ ending) :: more

namespace EndIn

variable {ending : List Char} {more ps : List (List Char)}

theorem append (qs : List (List Char)) (h : EndIn ending more ps) :
    EndIn ending more (qs ++ ps) := by
  obtain ⟨init, first, rfl⟩ := h
  exact ⟨qs ++ init, first, by rw [List.append_assoc]⟩

theorem consHead (c : Char) (h : EndIn ending more ps) : EndIn ending more (consHead c ps) := by
  obtain ⟨init, first, rfl⟩ := h
  cases init with
  | nil => exact ⟨[], c :: first, rfl⟩
  | cons p init => exact ⟨(c :: p) :: init, first, rfl⟩

/-- What a run starts with does not change how it ends. -/
theorem splitRun_append {tail : List Char} (htail : tail ≠ [])
    (h : ∀ mode, EndIn ending more (splitRun mode tail)) (mode : WordMode) (run : List Char) :
    EndIn ending more (splitRun mode (run ++ tail)) := by
  induction run generalizing mode with
  | nil => exact h mode
  | cons c run ih =>
    obtain ⟨n, rest, hrest⟩ := List.exists_cons_of_ne_nil (List.append_ne_nil_of_right_ne_nil run htail)
    rw [hrest] at ih
    rw [List.cons_append, hrest, splitRun]
    split
    · exact (ih .start).append [[c]]
    · split
      · exact ((ih .start).consHead c).append [[]]
      · exact (ih (mode.after c)).consHead c

end EndIn

/-- What is put behind a text without a separator in it goes to the last piece. -/
theorem exists_pieces_append (separates : Char → Bool) (text : List Char) {tail : List Char}
    (htail : ∀ c ∈ tail, separates c = false) :
    ∃ init last, pieces separates (text ++ tail) = init ++ [last ++ tail] := by
  induction text with
  | nil => exact ⟨[], [], pieces_eq_singleton separates htail⟩
  | cons c rest ih =>
    obtain ⟨init, last, heq⟩ := ih
    rw [List.cons_append, pieces, heq]
    split
    · exact ⟨[] :: init, last, rfl⟩
    · cases init with
      | nil => exact ⟨[], c :: last, rfl⟩
      | cons p init => exact ⟨(c :: p) :: init, last, rfl⟩

theorem endIn_words_append {ending tail : List Char} {more : List (List Char)} (htail : tail ≠ [])
    (hwords : ∀ c ∈ tail, isWordChar c) (h : ∀ mode, EndIn ending more (splitRun mode tail))
    (text : List Char) : EndIn ending more (words (text ++ tail)) := by
  obtain ⟨init, last, heq⟩ := exists_pieces_append (!isWordChar ·) text
    fun c hc => by rw [hwords c hc]; rfl
  unfold words wordRuns
  rw [heq, List.flatMap_append, List.flatMap_singleton]
  exact (EndIn.splitRun_append htail h .start last).append _

theorem lowerWord_append (first : List Char) {last : List Char} (hlast : last ≠ []) :
    lowerWord (first ++ last) = first.flatMap toLowers ++ lowerWord last := by
  induction first with
  | nil => rfl
  | cons c rest ih =>
    obtain ⟨n, more, hmore⟩ := List.exists_cons_of_ne_nil (List.append_ne_nil_of_right_ne_nil rest hlast)
    rw [List.cons_append, hmore, lowerWord, ← hmore, ih, List.flatMap_cons, List.append_assoc]
    simp

theorem suffix_intercalate {joint first ending : List Char} (init more : List (List Char)) :
    joint.intercalate (ending :: more) <:+
      joint.intercalate (init ++ (first ++ ending) :: more) := by
  induction init with
  | nil =>
    cases more with
    | nil => simp
    | cons next more => simp [List.intercalate_cons_cons, List.append_assoc]
  | cons p init ih =>
    obtain ⟨n, rest, hrest⟩ := List.exists_cons_of_ne_nil
      (List.append_ne_nil_of_right_ne_nil init (List.cons_ne_nil (first ++ ending) more))
    rw [List.cons_append, hrest, List.intercalate_cons_cons, ← hrest]
    exact ih.trans (List.suffix_append _ _)

/-- The words at the end of a name are at the end of its cased form. -/
theorem EndIn.suffix_snakeCase {ending : List Char} {more : List (List Char)} {name : String}
    (hending : ending ≠ []) (h : EndIn ending more (words name.toList)) :
    ['_'].intercalate ((ending :: more).map Text.lowerWord) <:+ (snakeCase name).toList := by
  obtain ⟨init, first, heq⟩ := h
  rw [snakeCase, String.toList_ofList, heq, List.map_append, List.map_cons, List.map_cons,
    lowerWord_append first hending]
  exact suffix_intercalate _ _

/-- Two small words at the end of a name stay there when it is cased. -/
theorem suffix_snakeCase_of_small {word last : List Char} (hword : Small word) (hlast : Small last)
    {name : String} (h : ['_'].intercalate [word, last] <:+ name.toList) :
    ['_'].intercalate [word, last] <:+ (snakeCase name).toList := by
  obtain ⟨text, heq⟩ := h
  have hwords : words name.toList = words (text ++ word) ++ [last] := by
    have hsplit : name.toList = (text ++ word) ++ '_' :: last := by
      rw [← heq]
      simp [List.intercalate_cons_cons]
    rw [hsplit, words_joint, hlast.words]
  have hends : EndIn word [] (words (text ++ word)) := by
    refine endIn_words_append hword.ne_nil hword.isWordChar (fun mode => ?_) text
    rw [hword.splitRun mode]
    exact ⟨[], [], rfl⟩
  obtain ⟨init, first, hinit⟩ := hends
  have hall : EndIn word [last] (words name.toList) := by
    rw [hwords, hinit]
    exact ⟨init, first, by simp⟩
  have hsuffix := hall.suffix_snakeCase hword.ne_nil
  rwa [List.map_cons, List.map_cons, List.map_nil, hword.lowerWord, hlast.lowerWord] at hsuffix

end Typewright.Text
