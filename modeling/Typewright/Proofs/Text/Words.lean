/-
  Typewright/Proofs/Text/Words.lean
  =================================
  **What cased names are made of** — characters that end nothing.

  Words hold word characters only, but casing may add others: `İ` becomes `i` and a
  mark above it.  What casing never gives is an ASCII character other than a letter
  or digit, so a cased name has no slash, dot, bracket or line feed in it, whatever
  it was made from.  `_` is the one exception; it joins small words.

  The case mappings are tables, and are checked entry by entry.
-/
import Mathlib.Data.List.Basic
import Typewright.Proofs.Text.Lines
import Typewright.Text.Spelling
import Typewright.Text.Words

namespace Typewright.Text

/-- Letters and digits of ASCII, `_`, and all characters beyond ASCII. -/
def isNameChar (c : Char) : Bool := 128 ≤ c.toNat || c.isAlphanum || c == '_'

theorem ne_of_isNameChar {c d : Char} (hc : isNameChar c) (hd : isNameChar d = false) : c ≠ d := by
  rintro rfl
  rw [hd] at hc
  cases hc

/-! ### Case mappings -/

/-- The images of the span are name characters: all of them lie beyond ASCII, and
    none among the surrogates, or there is only one and it is a name character. -/
def Shift.Keeps (s : Shift) : Prop :=
  (128 ≤ s.span.first + s.offset ∧ (s.span.last + s.offset < 0xd800 ∨
    0xdfff < s.span.first + s.offset ∧ s.span.last + s.offset < 0x110000)) ∨
  (s.span.first = s.span.last ∧ isNameChar (Char.ofNat (s.span.first + s.offset).toNat))

instance (s : Shift) : Decidable s.Keeps := by
  unfold Shift.Keeps
  infer_instance

theorem isNameChar_of_le {n : Nat} (hn : 128 ≤ n) (hvalid : n.isValidChar) :
    isNameChar (Char.ofNat n) := by
  have hchar : Char.ofNat n = Char.ofNatAux n hvalid := dif_pos hvalid
  have hcode : (Char.ofNat n).toNat = n := by
    rw [hchar]
    rfl
  simp [isNameChar, hcode, hn]

theorem Shift.Keeps.isNameChar {s : Shift} (h : s.Keeps) {code : Nat} (hcode : s.span.contains code) :
    isNameChar (Char.ofNat (code + s.offset).toNat) := by
  simp only [Span.contains, Bool.and_eq_true, decide_eq_true_eq] at hcode
  obtain ⟨⟨hfirst, hlast⟩, -⟩ := hcode
  rcases h with ⟨hlow, hhigh⟩ | ⟨hone, hname⟩
  · apply isNameChar_of_le
    · omega
    · unfold Nat.isValidChar
      omega
  · obtain rfl : code = s.span.first := by omega
    exact hname

theorem isNameChar_shifted {shifts : List Shift} (hkeeps : ∀ s ∈ shifts, s.Keeps) {c : Char}
    (hc : 128 ≤ c.toNat) : isNameChar (shifted shifts c) := by
  unfold shifted
  split
  · next s hfind =>
    have hcontains := List.find?_some hfind
    exact (hkeeps s (List.mem_of_find?_eq_some hfind)).isNameChar hcontains
  · simp [isNameChar, hc]

theorem lowerShifts_keep : ∀ s ∈ lowerShifts, s.Keeps := by decide +kernel

theorem upperShifts_keep : ∀ s ∈ upperShifts, s.Keeps := by decide +kernel

theorem upperExpansions_keep :
    ∀ e ∈ upperExpansions, ∀ code ∈ e.2, isNameChar (Char.ofNat code) := by decide

/-- The mappings of an ASCII word character, all of them looked at. -/
theorem isNameChar_ascii : ∀ n < 128, isWordChar (Char.ofNat n) →
    isNameChar (Char.ofNat n).toLower ∧ isNameChar (Char.ofNat n).toUpper := by decide

theorem isNameChar_of_mem_toLowers {c d : Char} (hc : isWordChar c) (hd : d ∈ toLowers c) :
    isNameChar d := by
  unfold toLowers at hd
  split at hd
  · next hascii =>
    obtain rfl := List.mem_singleton.mp hd
    have hlower := (isNameChar_ascii c.toNat hascii (by rwa [Char.ofNat_toNat])).1
    rwa [Char.ofNat_toNat] at hlower
  · next hbeyond =>
    split at hd
    · have hboth : ∀ x ∈ ['i', '\u0307'], isNameChar x := by
        rw [List.forall_mem_cons, List.forall_mem_singleton]
        decide
      exact hboth d hd
    · obtain rfl := List.mem_singleton.mp hd
      exact isNameChar_shifted lowerShifts_keep (by omega)

theorem isNameChar_of_mem_toUppers {c d : Char} (hc : isWordChar c) (hd : d ∈ toUppers c) :
    isNameChar d := by
  unfold toUppers at hd
  split at hd
  · next hascii =>
    obtain rfl := List.mem_singleton.mp hd
    have hupper := (isNameChar_ascii c.toNat hascii (by rwa [Char.ofNat_toNat])).2
    rwa [Char.ofNat_toNat] at hupper
  · next hbeyond =>
    split at hd
    · next codes hfind =>
      obtain ⟨code, hcode, rfl⟩ := List.mem_map.mp hd
      exact upperExpansions_keep _ (List.mem_of_find?_eq_some hfind) code hcode
    · obtain rfl := List.mem_singleton.mp hd
      exact isNameChar_shifted upperShifts_keep (by omega)

/-! ### Words -/

/-- The words of a run are the run again, put one after the other. -/
theorem flatten_splitRun (mode : WordMode) (run : List Char) : (splitRun mode run).flatten = run := by
  fun_induction splitRun mode run with
  | case1 => rfl
  | case2 => rfl
  | case3 mode c n rest hends ih => simp [ih]
  | case4 mode c n rest _ hends ih => simp [ih]
  | case5 mode c n rest _ _ ih => simp [ih]

/-- The words of a text have its word characters, in order. -/
theorem flatten_words (text : List Char) : (words text).flatten = text.filter isWordChar := by
  have hruns : ∀ runs : List (List Char),
      (runs.flatMap (splitRun .start)).flatten = runs.flatten := by
    intro runs
    induction runs with
    | nil => rfl
    | cons run rest ih =>
      rw [List.flatMap_cons, List.flatten_append, flatten_splitRun, ih, List.flatten_cons]
  rw [words, hruns, wordRuns, flatten_pieces]
  simp

theorem of_mem_words {text word : List Char} {c : Char} (hword : word ∈ words text)
    (hc : c ∈ word) : c ∈ text ∧ isWordChar c := by
  apply List.mem_filter.mp
  rw [← flatten_words]
  exact List.mem_flatten_of_mem hword hc

theorem isWordChar_of_mem_words {text word : List Char} {c : Char} (hword : word ∈ words text)
    (hc : c ∈ word) : isWordChar c := (of_mem_words hword hc).2

theorem isNameChar_of_mem_lowerWord {word : List Char} (hword : ∀ c ∈ word, isWordChar c) {d : Char}
    (hd : d ∈ lowerWord word) : isNameChar d := by
  fun_induction lowerWord word with
  | case1 => cases hd
  | case2 =>
    obtain rfl := List.mem_singleton.mp hd
    decide
  | case3 c rest _ ih =>
    rcases List.mem_append.mp hd with hfirst | hrest
    · exact isNameChar_of_mem_toLowers (hword c List.mem_cons_self) hfirst
    · exact ih (fun x hx => hword x (List.mem_cons_of_mem c hx)) hrest

theorem isNameChar_of_mem_capitalizeWord {word : List Char} (hword : ∀ c ∈ word, isWordChar c)
    {d : Char} (hd : d ∈ capitalizeWord word) : isNameChar d := by
  cases word with
  | nil => cases hd
  | cons c rest =>
    rcases List.mem_append.mp hd with hfirst | hrest
    · exact isNameChar_of_mem_toUppers (hword c List.mem_cons_self) hfirst
    · exact isNameChar_of_mem_lowerWord (fun x hx => hword x (List.mem_cons_of_mem c hx)) hrest

/-! ### Cased names -/

/-- A text of name characters only. -/
def IsName (text : String) : Prop := ∀ c ∈ text.toList, isNameChar c

instance (text : String) : Decidable (IsName text) :=
  decidable_of_iff (text.toList.all isNameChar = true) List.all_eq_true

theorem isName_append {first second : String} (hfirst : IsName first) (hsecond : IsName second) :
    IsName (first ++ second) := by
  intro c hc
  rw [String.toList_append] at hc
  rcases List.mem_append.mp hc with hmem | hmem
  · exact hfirst c hmem
  · exact hsecond c hmem

theorem isName_toString (n : Nat) : IsName (toString n) := by
  intro c hc
  have hdigits : c ∈ Nat.toDigits 10 n := by
    rwa [← Nat.toList_repr]
  have hdigit := Nat.isDigit_of_mem_toDigits (by omega) (by omega) hdigits
  simp [isNameChar, Char.isAlphanum, hdigit]

theorem not_mem_of_isName {name : String} (hname : IsName name) {c : Char} (hc : isNameChar c = false) :
    c ∉ name.toList := by
  intro hmem
  exact ne_of_isNameChar (hname c hmem) hc rfl

/-- A name stays on its line. -/
theorem oneLine_of_isName {name : String} (hname : IsName name) : OneLine name := by
  constructor
  · exact not_mem_of_isName hname (by decide)
  · exact not_mem_of_isName hname (by decide)

theorem isName_pascalCase (text : String) : IsName (pascalCase text) := by
  intro d hd
  rw [pascalCase, String.toList_ofList] at hd
  obtain ⟨word, hword, hmem⟩ := List.mem_flatMap.mp hd
  exact isNameChar_of_mem_capitalizeWord (fun c hc => isWordChar_of_mem_words hword hc) hmem

theorem isName_snakeCase (text : String) : IsName (snakeCase text) := by
  intro d hd
  rw [snakeCase, String.toList_ofList] at hd
  rcases mem_intercalate hd with hjoin | ⟨word, hword, hmem⟩
  · obtain rfl := List.mem_singleton.mp hjoin
    decide
  · obtain ⟨raw, hraw, rfl⟩ := List.mem_map.mp hword
    exact isNameChar_of_mem_lowerWord (fun c hc => isWordChar_of_mem_words hraw hc) hmem

end Typewright.Text
