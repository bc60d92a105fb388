/-
  Typewright/Proofs/Text/Literal.lean
  ===================================
  **String literals read back** — a quoted text is read as the text itself.

  A reader of the generated code goes through a literal character by character, and
  knows all escapes of the language, more than are ever written.  It reads back
  exactly the text that was quoted, and stops right behind the closing quote,
  whatever follows (`decode?_quote`).

  Nothing in a literal ends a line, so a literal never spans two.
-/
import Mathlib.Algebra.Group.Nat.Defs
import Typewright.Proofs.Text.Lines
import Typewright.Text.Quoted

namespace Typewright.Text

/-! ### Hexadecimal digits -/

/-- The value of a hexadecimal digit, in either case. -/
def hexValue? (c : Char) : Option Nat :=
  if '0' ≤ c ∧ c ≤ '9' then some (c.toNat - 48)
  else if 'a' ≤ c ∧ c ≤ 'f' then some (c.toNat - 87)
  else if 'A' ≤ c ∧ c ≤ 'F' then some (c.toNat - 55)
  else none

theorem hexValue?_hexDigit : ∀ d < 16, hexValue? (hexDigit d) = some d := by decide

theorem length_hexDigits_le {n width : Nat} (hn : n < 16 ^ (width + 1)) :
    (hexDigits n).length ≤ width + 1 := by
  induction width generalizing n with
  | zero =>
    unfold hexDigits
    rw [if_pos (by simpa using hn)]
    simp
  | succ width ih =>
    unfold hexDigits
    split
    · simp
    · have hquotient : n / 16 < 16 ^ (width + 1) := by
        rw [Nat.pow_succ] at hn
        omega
      have hlength := ih hquotient
      simp only [List.length_append, List.length_singleton]
      omega

theorem length_hexDigits_pos (n : Nat) : 0 < (hexDigits n).length := by
  unfold hexDigits
  split <;> simp

theorem isAlphanum_of_mem_hexDigits {n : Nat} {c : Char} (hc : c ∈ hexDigits n) : c.isAlphanum := by
  have hdigit : ∀ d < 16, (hexDigit d).isAlphanum := by decide
  fun_induction hexDigits n with
  | case1 n hsmall =>
    obtain rfl := List.mem_singleton.mp hc
    exact hdigit n hsmall
  | case2 n hlarge ih =>
    rcases List.mem_append.mp hc with hfirst | hlast
    · exact ih hfirst
    · obtain rfl := List.mem_singleton.mp hlast
      exact hdigit (n % 16) (by omega)

/-! ### Quoted texts -/

/-- A text between quotes stays on its line, if no escape of a character ends one. -/
theorem oneLine_of_escape {escape : Char → List Char}
    (hescape : ∀ c, ∀ d ∈ escape c, d ≠ '\n' ∧ d ≠ '\r') (text : String) :
    OneLine (String.ofList ('\x22' :: text.toList.flatMap escape ++ ['\x22'])) := by
  have hne : ∀ d ∈ '\x22' :: text.toList.flatMap escape ++ ['\x22'], d ≠ '\n' ∧ d ≠ '\r' := by
    intro d hd
    rcases List.mem_append.mp hd with hfirst | hlast
    · rcases List.mem_cons.mp hfirst with rfl | htext
      · decide
      · obtain ⟨c, -, hmem⟩ := List.mem_flatMap.mp htext
        exact hescape c d hmem
    · obtain rfl := List.mem_singleton.mp hlast
      decide
  rw [OneLine, String.toList_ofList]
  exact ⟨fun hfeed => (hne _ hfeed).1 rfl, fun hreturn => (hne _ hreturn).2 rfl⟩

namespace Literal

/-! ### A reader of literals -/

/-- Where a reader stands in a literal. -/
inductive Mode where
  | plain
  /-- After a backslash. -/
  | escaped
  /-- Before the first of two digits, and before the second. -/
  | byte
  | byteAfter (high : Nat)
  /-- Before the brace that opens a code point, and after some of its digits. -/
  | brace
  | code (digits value : Nat)
  /-- After a backslash at the end of a line: blanks are passed over. -/
  | skipping
deriving DecidableEq

/-- What a character does: it ends the literal, or leads on and may give a
    character of the text. -/
inductive Effect where
  | done
  | go (mode : Mode) (read : Option Char)
deriving DecidableEq

namespace Mode

def nextPlain (c : Char) : Option Effect :=
  if c = '\x22' then some .done
  else if c = '\\' then some (.go .escaped none)
  else if c = '\r' then none
  else some (.go .plain (some c))

/-- The effect of a character in each mode; none if it may not stand there. -/
def next : Mode → Char → Option Effect
  | plain, c => nextPlain c
  | escaped, c =>
    match c with
    | '\x22' | '\x27' | '\\' => some (.go .plain (some c))
    | 'n' => some (.go .plain (some '\n'))
    | 'r' => some (.go .plain (some '\r'))
    | 't' => some (.go .plain (some '\t'))
    | '0' => some (.go .plain (some '\x00'))
    | 'x' => some (.go .byte none)
    | 'u' => some (.go .brace none)
    | '\n' => some (.go .skipping none)
    | _ => none
  | byte, c => ((hexValue? c).filter (· < 8)).map fun high => .go (.byteAfter high) none
  | byteAfter high, c =>
    (hexValue? c).map fun low => .go .plain (some (Char.ofNat (16 * high + low)))
  | brace, c => if c = '\x7b' then some (.go (.code 0 0) none) else none
  | code digits value, c =>
    if c = '\x7d' then
      if 0 < digits ∧ value.isValidChar then some (.go .plain (some (Char.ofNat value))) else none
    else if c = '_' then
      if 0 < digits then some (.go (.code digits value) none) else none
    else if digits < 6 then
      (hexValue? c).map fun digit => .go (.code (digits + 1) (16 * value + digit)) none
    else none
  | skipping, c =>
    if c = ' ' ∨ c = '\t' ∨ c = '\n' ∨ c = '\r' then some (.go .skipping none) else nextPlain c

end Mode

/-- Reads on to the end of a literal: the text, and what follows the literal. -/
def readFrom : Mode → List Char → Option (List Char × List Char)
  | _, [] => none
  | mode, c :: rest =>
    match mode.next c with
    | none => none
    | some .done => some ([], rest)
    | some (.go next read) =>
      (readFrom next rest).map fun (text, after) => (read.toList ++ text, after)

/-- The text of the literal that a text starts with, and what follows it. -/
def decode? : List Char → Option (String × List Char)
  | '\x22' :: rest => (readFrom .plain rest).map fun (text, after) => (String.ofList text, after)
  | _ => none

/-! ### Reading what was quoted -/

/-- One more character in front of what is read. -/
def withRead (c : Char) : Option (List Char × List Char) → Option (List Char × List Char) :=
  Option.map fun (text, after) => (c :: text, after)

theorem readFrom_silent {mode next : Mode} {c : Char} (h : mode.next c = some (.go next none))
    (rest : List Char) : readFrom mode (c :: rest) = readFrom next rest := by
  rw [readFrom, h]
  simp

theorem readFrom_reading {mode next : Mode} {c d : Char} (h : mode.next c = some (.go next (some d)))
    (rest : List Char) : readFrom mode (c :: rest) = withRead d (readFrom next rest) := by
  rw [readFrom, h]
  rfl

theorem next_code_hexDigit {digits value d : Nat} (hdigits : digits < 6) (hd : d < 16) :
    (Mode.code digits value).next (hexDigit d) =
      some (.go (.code (digits + 1) (16 * value + d)) none) := by
  have hmarks : ∀ d < 16, hexDigit d ≠ '\x7d' ∧ hexDigit d ≠ '_' := by decide
  obtain ⟨hbrace, hjoin⟩ := hmarks d hd
  simp [Mode.next, hbrace, hjoin, hdigits, hexValue?_hexDigit d hd]

/-- The digits of a number are read as the number. -/
theorem readFrom_hexDigits {n : Nat} (hn : (hexDigits n).length ≤ 6) (rest : List Char) :
    readFrom (.code 0 0) (hexDigits n ++ rest) =
      readFrom (.code (hexDigits n).length n) rest := by
  -- The last digit is written last and read last, so the rest varies in the induction.
  fun_induction hexDigits n generalizing rest with
  | case1 n hsmall =>
    have hnext := @next_code_hexDigit 0 0 n (by omega) hsmall
    simpa using readFrom_silent hnext rest
  | case2 n hlarge ih =>
    rw [List.length_append, List.length_singleton] at hn ⊢
    have hnext := @next_code_hexDigit _ (n / 16) (n % 16) hn (by omega)
    rw [List.append_assoc, ih (by omega), List.singleton_append, readFrom_silent hnext]
    congr 2
    omega

theorem readFrom_backslash {c d : Char} (h : Mode.escaped.next c = some (.go .plain (some d)))
    (rest : List Char) : readFrom .plain ('\\' :: c :: rest) = withRead d (readFrom .plain rest) := by
  have hback : Mode.plain.next '\\' = some (.go .escaped none) := rfl
  rw [readFrom_silent hback, readFrom_reading h]

/-- The escape by a code point is read as that code point. -/
theorem readFrom_codePoint (c : Char) (rest : List Char) :
    readFrom .plain ('\\' :: 'u' :: '\x7b' :: (hexDigits c.toNat ++ '\x7d' :: rest)) =
      withRead c (readFrom .plain rest) := by
  have hback : Mode.plain.next '\\' = some (.go .escaped none) := rfl
  have hmark : Mode.escaped.next 'u' = some (.go .brace none) := rfl
  have hopen : Mode.brace.next '\x7b' = some (.go (.code 0 0) none) := rfl
  have hvalid : c.toNat.isValidChar := c.valid
  have hlength : (hexDigits c.toNat).length ≤ 6 := by
    apply length_hexDigits_le
    unfold Nat.isValidChar at hvalid
    omega
  have hclose : (Mode.code (hexDigits c.toNat).length c.toNat).next '\x7d' =
      some (.go .plain (some c)) := by
    simp [Mode.next, length_hexDigits_pos, hvalid]
  rw [readFrom_silent hback, readFrom_silent hmark, readFrom_silent hopen,
    readFrom_hexDigits hlength, readFrom_reading hclose]

/-- Every character is read back from its escape, whatever follows it. -/
theorem readFrom_escape (c : Char) (rest : List Char) :
    readFrom .plain (escape c ++ rest) = withRead c (readFrom .plain rest) := by
  unfold escape
  split
  · exact readFrom_backslash rfl rest
  · exact readFrom_backslash rfl rest
  · exact readFrom_backslash rfl rest
  · exact readFrom_backslash rfl rest
  · exact readFrom_backslash rfl rest
  · exact readFrom_backslash rfl rest
  · next hquote hback _ hreturn _ _ =>
    split
    · have hplain : Mode.plain.next c = some (.go .plain (some c)) := by
        simp only [Mode.next, Mode.nextPlain]
        rw [if_neg hquote, if_neg hback, if_neg hreturn]
      exact readFrom_reading hplain rest
    · rw [List.append_assoc]
      exact readFrom_codePoint c rest

theorem readFrom_flatMap_escape (text rest : List Char) :
    readFrom .plain (text.flatMap escape ++ '\x22' :: rest) = some (text, rest) := by
  induction text with
  | nil => rfl
  | cons c text ih =>
    rw [List.flatMap_cons, List.append_assoc, readFrom_escape, ih]
    rfl

/-- **Literals are read back.**  A quoted text is read as it was, and the reader stops
    behind it. -/
theorem decode?_quote (text : String) (rest : List Char) :
    decode? ((quote text).toList ++ rest) = some (text, rest) := by
  have hletters : (quote text).toList ++ rest =
      '\x22' :: (text.toList.flatMap escape ++ '\x22' :: rest) := by
    simp [quote]
  rw [hletters, decode?, readFrom_flatMap_escape]
  simp

/-! ### Literals stay on their line -/

theorem ne_of_mem_escape (c : Char) : ∀ d ∈ escape c, d ≠ '\n' ∧ d ≠ '\r' := by
  unfold escape
  split
  · simp
  · simp
  · simp
  · simp
  · simp
  · simp
  · next _ _ hfeed hreturn _ _ =>
    split
    · intro d hd
      obtain rfl := List.mem_singleton.mp hd
      exact ⟨hfeed, hreturn⟩
    · have hopen : ∀ d ∈ ['\\', 'u', '\x7b'], d ≠ '\n' ∧ d ≠ '\r' := by simp
      have hclose : ∀ d ∈ ['\x7d'], d ≠ '\n' ∧ d ≠ '\r' := by simp
      intro d hd
      rw [List.mem_append, List.mem_append] at hd
      rcases hd with (hfirst | hdigit) | hlast
      · exact hopen d hfirst
      · have halnum := isAlphanum_of_mem_hexDigits hdigit
        constructor
        · rintro rfl
          cases halnum
        · rintro rfl
          cases halnum
      · exact hclose d hlast

/-- A literal ends no line. -/
theorem oneLine_quote (text : String) : OneLine (quote text) := oneLine_of_escape ne_of_mem_escape text

end Literal

end Typewright.Text
