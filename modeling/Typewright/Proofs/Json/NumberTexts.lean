/-
  Typewright/Proofs/Json/NumberTexts.lean
  =======================================
  **Texts of numbers** — what they are made of.

  The text of a number is a digit with a minus sign before it, if there is any, and with
  digits, signs, points and exponents behind it (`JsonNumber.exists_text_eq`).  The text
  of a natural number has digits only, and no other one has the same.
-/
import Mathlib.Data.List.Basic
import Typewright.Json.Printer

namespace Typewright

/-! ### Natural numbers -/

theorem toList_toString (n : Nat) : (toString n).toList = Nat.toDigits 10 n := by
  rw [Nat.toString_eq_repr, Nat.toList_repr]

theorem isDigit_of_mem_toString {n : Nat} {c : Char} (hc : c ∈ (toString n).toList) :
    c.isDigit := by
  rw [toList_toString] at hc
  exact Nat.isDigit_of_mem_toDigits (by omega) (by omega) hc

theorem toString_injective : Function.Injective (toString : Nat → String) := by
  intro m n heq
  have hletters := congrArg String.toList heq
  rw [toList_toString, toList_toString] at hletters
  have hvalue := congrArg (Nat.ofDigitChars 10 · 0) hletters
  simpa only [Nat.ofDigitChars_ten_toDigits] using hvalue

/-! ### Numerals -/

/-- The characters that numbers are written with. -/
def numeralChars : List Char := "0123456789-+.e".toList

def IsNumeral (text : String) : Prop := ∀ c ∈ text.toList, c ∈ numeralChars

instance (text : String) : Decidable (IsNumeral text) := List.decidableBAll _ text.toList

theorem isNumeral_append {first second : String} (hfirst : IsNumeral first)
    (hsecond : IsNumeral second) : IsNumeral (first ++ second) := by
  unfold IsNumeral
  rw [String.toList_append, List.forall_mem_append]
  exact ⟨hfirst, hsecond⟩

theorem isNumeral_ofList {chars : List Char} (h : ∀ c ∈ chars, c ∈ numeralChars) :
    IsNumeral (String.ofList chars) := by
  unfold IsNumeral
  rwa [String.toList_ofList]

/-- The digits of ASCII, all of them looked at. -/
theorem mem_numeralChars_ascii : ∀ n < 128, (Char.ofNat n).isDigit →
    Char.ofNat n ∈ numeralChars := by decide

theorem mem_numeralChars_of_isDigit {c : Char} (hc : c.isDigit) : c ∈ numeralChars := by
  have hlast : c.toNat ≤ '9'.toNat := of_decide_eq_true (Bool.and_eq_true_iff.mp hc).2
  have hcode : '9'.toNat = 57 := rfl
  have hmem := mem_numeralChars_ascii c.toNat (by omega)
  rw [Char.ofNat_toNat] at hmem
  exact hmem hc

theorem isNumeral_pushn_zero (n : Nat) : IsNumeral ("".pushn '0' n) := by
  induction n with
  | zero => decide
  | succ n ih =>
    have hpush : "".pushn '0' (n + 1) = ("".pushn '0' n).push '0' := rfl
    intro c hc
    rw [hpush, String.toList_push] at hc
    rcases List.mem_append.mp hc with hbefore | hlast
    · exact ih c hbefore
    · obtain rfl := List.mem_singleton.mp hlast
      decide

/-! ### Numbers -/

/-- A numeral that starts with a digit. -/
structure IsUnsigned (text : String) : Prop where
  numeral : IsNumeral text
  digit : ∃ c rest, text.toList = c :: rest ∧ c.isDigit

namespace IsUnsigned

theorem append {first second : String} (hfirst : IsUnsigned first) (hsecond : IsNumeral second) :
    IsUnsigned (first ++ second) := by
  obtain ⟨c, rest, hletters, hdigit⟩ := hfirst.digit
  refine ⟨isNumeral_append hfirst.numeral hsecond, c, rest ++ second.toList, ?_, hdigit⟩
  rw [String.toList_append, hletters, List.cons_append]

theorem take {text : String} (h : IsUnsigned text) {n : Nat} (hn : 0 < n) :
    IsUnsigned (String.ofList (text.toList.take n)) := by
  obtain ⟨c, rest, hletters, hdigit⟩ := h.digit
  refine ⟨isNumeral_ofList fun d hd => h.numeral d (List.mem_of_mem_take hd), c,
    rest.take (n - 1), ?_, hdigit⟩
  rw [String.toList_ofList, hletters, List.take_cons hn]

theorem toString (n : Nat) : IsUnsigned (toString n) := by
  refine ⟨fun c hc => mem_numeralChars_of_isDigit (isDigit_of_mem_toString hc), ?_⟩
  have hne : (ToString.toString n).toList ≠ [] := by
    rw [toList_toString]
    exact Nat.toDigits_ne_nil
  exact ⟨_, _, (List.cons_head_tail hne).symm, isDigit_of_mem_toString (List.head_mem hne)⟩

/-- The digits of a number, with a point put somewhere. -/
theorem positional {digits : String} (h : IsUnsigned digits) (point : Int) :
    IsUnsigned (Number.positional digits point) := by
  have hzero : IsUnsigned "0." := ⟨by decide, '0', ['.'], rfl, by decide⟩
  have hzeros := isNumeral_pushn_zero
  unfold Number.positional
  simp only
  split
  · exact (hzero.append (hzeros _)).append h.numeral
  · split
    · exact (h.append (hzeros _)).append (by decide)
    · have hrest : ∀ c ∈ digits.toList.drop point.toNat, c ∈ numeralChars :=
        fun c hc => h.numeral c (List.mem_of_mem_drop hc)
      exact ((h.take (by omega)).append (by decide)).append (isNumeral_ofList hrest)

/-- The digits of a number, with an exponent behind them. -/
theorem scientific {digits : String} (h : IsUnsigned digits) (exponent : Int) (plusSign : Bool) :
    IsUnsigned (Number.scientific digits exponent plusSign) := by
  have hrest : ∀ c ∈ digits.toList.drop 1, c ∈ numeralChars :=
    fun c hc => h.numeral c (List.mem_of_mem_drop hc)
  have hfraction : IsNumeral (if (digits.toList.drop 1).isEmpty then ""
      else "." ++ String.ofList (digits.toList.drop 1)) := by
    split
    · decide
    · exact isNumeral_append (by decide) (isNumeral_ofList hrest)
  have hsign : IsNumeral (if exponent < 0 then "-" else if plusSign then "+" else "") := by
    split
    · decide
    · split <;> decide
  exact ((((h.take Nat.one_pos).append hfraction).append (by decide)).append hsign).append
    (toString exponent.natAbs).numeral

end IsUnsigned

/-- The text of a number is one without a sign, or a sign and such a text. -/
theorem JsonNumber.exists_text_eq (n : JsonNumber) :
    ∃ sign unsigned, n.text = sign ++ unsigned ∧ (sign = "" ∨ sign = "-") ∧
      IsUnsigned unsigned := by
  cases n with
  | whole n =>
    cases n with
    | ofNat n => exact ⟨"", toString n, String.empty_append.symm, Or.inl rfl, .toString n⟩
    | negSucc n => exact ⟨"-", toString (n + 1), rfl, Or.inr rfl, .toString (n + 1)⟩
  | real x =>
    refine ⟨if x.negative then "-" else "", _, rfl, ?_, ?_⟩
    · split
      · exact Or.inr rfl
      · exact Or.inl rfl
    · split
      · exact (IsUnsigned.toString _).positional _
      · exact (IsUnsigned.toString _).scientific _ _

theorem JsonNumber.isNumeral_text (n : JsonNumber) : IsNumeral n.text := by
  obtain ⟨sign, unsigned, htext, hsign, hunsigned⟩ := n.exists_text_eq
  rw [htext]
  obtain rfl | rfl := hsign
  · exact isNumeral_append (by decide) hunsigned.numeral
  · exact isNumeral_append (by decide) hunsigned.numeral

end Typewright
