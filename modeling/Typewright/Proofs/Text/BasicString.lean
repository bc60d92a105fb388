/-
  Typewright/Proofs/Text/BasicString.lean
  =======================================
  **Basic strings read back** — which texts a string of the manifest can hold.

  The grammar of basic strings forbids quotes, backslashes and control characters other
  than tabs, unless they are escaped.  A reader that keeps to it goes from the opening
  quote up to the first quote that is not escaped.  It knows the short escapes and those
  by code point, of four digits or eight, though only short ones are ever written.

  Writing escapes whatever would end the string or the line.  The other control
  characters are left as they are, and a string with one of them is no string of the
  grammar.  So a text is read back just if it holds none of these (`decode?_quote`).
-/
import Typewright.Proofs.Text.Literal

namespace Typewright.Text.BasicString

open Literal (withRead)

/-! ### A reader of basic strings -/

/-- The characters that no string of the manifest holds unless they are escaped, besides
    the quote and the backslash. -/
def IsControl (c : Char) : Prop := c ≠ '\t' ∧ (c.toNat < 0x20 ∨ c.toNat = 0x7f)

instance (c : Char) : Decidable (IsControl c) :=
  inferInstanceAs (Decidable (c ≠ '\t' ∧ (c.toNat < 0x20 ∨ c.toNat = 0x7f)))

/-- The character of an escape of one letter or mark. -/
def shortEscape? (c : Char) : Option Char :=
  match c with
  | '\x22' => some '\x22'
  | '\\' => some '\\'
  | 'b' => some '\x08'
  | 'f' => some '\x0c'
  | 'n' => some '\n'
  | 'r' => some '\r'
  | 't' => some '\t'
  | _ => none

/-- The character with the code point that `width` digits give, and what follows them. -/
def readCode (width : Nat) (text : List Char) : Option (Char × List Char) := do
  let digits ← (text.take width).mapM hexValue?
  let code := digits.foldl (fun code digit => 16 * code + digit) 0
  if digits.length = width ∧ code.isValidChar then some (Char.ofNat code, text.drop width) else none

/-- The character of an escape, after its backslash, and what follows it. -/
def readEscape : List Char → Option (Char × List Char)
  | [] => none
  | 'u' :: rest => readCode 4 rest
  | 'U' :: rest => readCode 8 rest
  | c :: rest => (shortEscape? c).map fun read => (read, rest)

/-- The character that a string holds first, and what follows it. -/
def readChar (c : Char) (rest : List Char) : Option (Char × List Char) :=
  if c = '\\' then readEscape rest
  else if c = '\x22' ∨ IsControl c then none
  else some (c, rest)

/-- Reads on to the end of a string: the text, and what follows the string.  Every step
    takes a character at least, so the text that is left bounds them. -/
def readFrom : (bound : List Char) → List Char → Option (List Char × List Char)
  | [], _ | _, [] => none
  | _ :: bound, c :: rest =>
    if c = '\x22' then some ([], rest)
    else (readChar c rest).bind fun (read, rest) => withRead read (readFrom bound rest)

/-- The text of the string that a text starts with, and what follows it. -/
def decode? : List Char → Option (String × List Char)
  | '\x22' :: rest => (readFrom rest rest).map fun (text, after) => (String.ofList text, after)
  | _ => none

/-! ### Reading what was quoted -/

/-- Writing keeps the character readable: it is no control character, or one that ends
    a line and so is escaped. -/
def Survives (c : Char) : Prop := IsControl c → c = '\n' ∨ c = '\r'

instance (c : Char) : Decidable (Survives c) :=
  inferInstanceAs (Decidable (IsControl c → c = '\n' ∨ c = '\r'))

/-- Nothing in the text is lost by writing it. -/
def IsWritable (text : String) : Prop := ∀ c ∈ text.toList, Survives c

instance (text : String) : Decidable (IsWritable text) := List.decidableBAll _ text.toList

theorem survives_iff_of_ne {c : Char} (hfeed : c ≠ '\n') (hreturn : c ≠ '\r') :
    Survives c ↔ ¬ IsControl c :=
  ⟨fun h hcontrol => (h hcontrol).elim hfeed hreturn, fun h hcontrol => absurd hcontrol h⟩

theorem readFrom_of_readChar {c d read : Char} {rest after : List Char} (hquote : c ≠ '\x22')
    (h : readChar c rest = some (read, after)) (bound : List Char) :
    readFrom (d :: bound) (c :: rest) = withRead read (readFrom bound after) := by
  rw [readFrom, if_neg hquote, h, Option.bind_some]

theorem readFrom_backslash {c d : Char} (h : ∀ rest, readEscape (c :: rest) = some (d, rest))
    (b : Char) (bound rest : List Char) :
    readFrom (b :: bound) ('\\' :: c :: rest) = withRead d (readFrom bound rest) := by
  have hread : readChar '\\' (c :: rest) = some (d, rest) := by rw [readChar, if_pos rfl, h]
  exact readFrom_of_readChar (by decide) hread bound

/-- The ways in which a character is written. -/
inductive Written (c : Char) : List Char → Prop where
  /-- By a backslash and a letter or mark that is read as the character. -/
  | short {d : Char} (hread : ∀ rest, readEscape (d :: rest) = some (c, rest))
      (hvisible : ¬ IsControl d) (hkept : Survives c) : Written c ['\\', d]
  /-- As it is, if it ends neither the string nor the line. -/
  | plain (hquote : c ≠ '\x22') (hback : c ≠ '\\') (hfeed : c ≠ '\n') (hreturn : c ≠ '\r') :
      Written c [c]

theorem written_escape (c : Char) : Written c (escape c) := by
  unfold escape
  split
  · exact .short (fun _ => rfl) (by decide) (by decide)
  · exact .short (fun _ => rfl) (by decide) (by decide)
  · exact .short (fun _ => rfl) (by decide) (by decide)
  · exact .short (fun _ => rfl) (by decide) (by decide)
  · exact .short (fun _ => rfl) (by decide) (by decide)
  · next hquote hback hfeed _ hreturn => exact .plain hquote hback hfeed hreturn

/-- One step: a character is read back from what was written, or the string is refused. -/
theorem readFrom_escape (c b : Char) (bound rest : List Char) :
    readFrom (b :: bound) (escape c ++ rest) =
      if Survives c then withRead c (readFrom bound rest) else none := by
  have hwritten := written_escape c
  generalize escape c = letters at hwritten ⊢
  cases hwritten with
  | short hread _ hkept =>
    rw [if_pos hkept]
    exact readFrom_backslash hread b bound rest
  | plain hquote hback hfeed hreturn =>
    by_cases hcontrol : IsControl c
    · have hlost : ¬ Survives c := fun h => (survives_iff_of_ne hfeed hreturn).mp h hcontrol
      have hread : readChar c rest = none := by
        rw [readChar, if_neg hback, if_pos (Or.inr hcontrol)]
      rw [if_neg hlost, List.singleton_append, readFrom, if_neg hquote, hread, Option.bind_none]
    · have hread : readChar c rest = some (c, rest) := by
        rw [readChar, if_neg hback, if_neg (not_or.mpr ⟨hquote, hcontrol⟩)]
      have hkept : Survives c := (survives_iff_of_ne hfeed hreturn).mpr hcontrol
      rw [if_pos hkept]
      exact readFrom_of_readChar hquote hread bound

theorem isWritable_ofList_cons {c : Char} {text : List Char} :
    IsWritable (String.ofList (c :: text)) ↔ Survives c ∧ IsWritable (String.ofList text) := by
  simp only [IsWritable, String.toList_ofList, List.forall_mem_cons]

/-- A string is read up to its end, or refused for the first character that does not
    survive. -/
theorem readFrom_flatMap_escape (text rest : List Char) {bound : List Char}
    (hbound : text.length < bound.length) :
    readFrom bound (text.flatMap escape ++ '\x22' :: rest) =
      if IsWritable (String.ofList text) then some (text, rest) else none := by
  induction text generalizing bound with
  | nil =>
    rcases bound with _ | ⟨b, bound⟩
    · cases hbound
    · simp [readFrom, IsWritable]
  | cons c text ih =>
    rcases bound with _ | ⟨b, bound⟩
    · cases hbound
    · have hrest := ih (Nat.lt_of_succ_lt_succ hbound)
      rw [List.flatMap_cons, List.append_assoc, readFrom_escape, hrest]
      simp only [isWritable_ofList_cons]
      by_cases hc : Survives c
      · by_cases htext : IsWritable (String.ofList text)
        · simp only [if_pos hc, if_pos htext, if_pos (And.intro hc htext)]
          rfl
        · rw [if_pos hc, if_neg htext, if_neg fun h => htext h.2]
          rfl
      · rw [if_neg hc, if_neg fun h => hc h.1]

theorem length_le_flatMap_escape (text : List Char) :
    text.length ≤ (text.flatMap escape).length := by
  have hone : ∀ c, 1 ≤ (escape c).length := by
    intro c
    have hwritten := written_escape c
    generalize escape c = letters at hwritten ⊢
    cases hwritten with
    | short => simp
    | plain => simp
  induction text with
  | nil => exact Nat.le_refl 0
  | cons c text ih =>
    rw [List.flatMap_cons, List.length_append, List.length_cons]
    have hc := hone c
    omega

/-- **Basic strings are read back.**  A quoted text is read as it was, and the reader
    stops behind it, if all of it survives.  Else what was written is no string. -/
theorem decode?_quote (text : String) (rest : List Char) :
    decode? ((quote text).toList ++ rest) =
      if IsWritable text then some (text, rest) else none := by
  have hletters : (quote text).toList ++ rest =
      '\x22' :: (text.toList.flatMap escape ++ '\x22' :: rest) := by
    simp [quote]
  have hlength := length_le_flatMap_escape text.toList
  have hbound : text.toList.length <
      (text.toList.flatMap escape ++ '\x22' :: rest).length := by
    rw [List.length_append, List.length_cons]
    omega
  have hread := readFrom_flatMap_escape text.toList rest hbound
  rw [String.ofList_toList] at hread
  rw [hletters, decode?]
  by_cases h : IsWritable text
  · rw [if_pos h, hread.trans (if_pos h)]
    simp
  · rw [if_neg h, hread.trans (if_neg h)]
    rfl

/-! ### What a basic string holds -/

theorem mem_quote_iff {text : String} {c : Char} :
    c ∈ (quote text).toList ↔ c = '\x22' ∨ ∃ d ∈ text.toList, c ∈ escape d := by
  rw [quote, String.toList_ofList]
  simp only [List.mem_append, List.mem_cons, List.mem_flatMap, List.not_mem_nil, or_false]
  rw [or_right_comm, or_self]

theorem survives_iff {c : Char} : Survives c ↔ ∀ d ∈ escape c, ¬ IsControl d := by
  have hwritten := written_escape c
  generalize escape c = letters at hwritten ⊢
  cases hwritten with
  | short _ hvisible hkept =>
    have hback : ¬ IsControl '\\' := by decide
    rw [List.forall_mem_cons, List.forall_mem_singleton]
    exact iff_of_true hkept ⟨hback, hvisible⟩
  | plain _ _ hfeed hreturn =>
    rw [List.forall_mem_singleton]
    exact survives_iff_of_ne hfeed hreturn

/-- What is written holds a control character just if it is not read back. -/
theorem isWritable_iff {text : String} :
    IsWritable text ↔ ∀ c ∈ (quote text).toList, ¬ IsControl c := by
  simp only [IsWritable, survives_iff, mem_quote_iff]
  constructor
  · rintro h c (rfl | ⟨d, hd, hc⟩)
    · decide
    · exact h d hd c hc
  · intro h d hd c hc
    exact h c (Or.inr ⟨d, hd, hc⟩)

/-! ### Basic strings stay on their line -/

theorem ne_of_not_isControl {c : Char} (h : ¬ IsControl c) : c ≠ '\n' ∧ c ≠ '\r' := by
  constructor
  · rintro rfl
    exact h (by decide)
  · rintro rfl
    exact h (by decide)

theorem ne_of_mem_escape (c : Char) : ∀ d ∈ escape c, d ≠ '\n' ∧ d ≠ '\r' := by
  have hwritten := written_escape c
  generalize escape c = letters at hwritten ⊢
  cases hwritten with
  | short _ hvisible _ =>
    rw [List.forall_mem_cons, List.forall_mem_singleton]
    exact ⟨ne_of_not_isControl (by decide), ne_of_not_isControl hvisible⟩
  | plain _ _ hfeed hreturn =>
    rw [List.forall_mem_singleton]
    exact ⟨hfeed, hreturn⟩

/-- A string ends no line, whatever it holds. -/
theorem oneLine_quote (text : String) : OneLine (quote text) := oneLine_of_escape ne_of_mem_escape text

end Typewright.Text.BasicString
