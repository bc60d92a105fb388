/-
  Typewright/Number/Binary64.lean
  ===============================
  **Binary floating point, exactly** — finite numbers of 64 bits as a sign, a
  mantissa and a power of two, with every operation computed on whole numbers
  and rounded once.

  A number is `± mantissa · 2 ^ exponent`.  The mantissa has 53 bits, fewer only
  at the least exponent, so every number has one form apart from the sign of
  zero.  `ofRatio` rounds an exact quotient to the nearest number, a half to the
  even mantissa; product and quotient of two numbers are rounded quotients too.

  `ofScientific` is how a decimal numeral is read: significand and power of ten
  are rounded on their own and then multiplied or divided.  Up to fifteen
  significant digits and a power up to 22 this is the nearest number.
-/

namespace Typewright.Number

/-- A finite floating-point number of 64 bits. -/
structure Binary64 where
  negative : Bool
  mantissa : Nat
  exponent : Int
  mantissa_lt : mantissa < Nat.pow 2 53
  normal : Nat.pow 2 52 ≤ mantissa ∨ exponent = -1074
  exponent_le : exponent ≤ 971
deriving DecidableEq

namespace Binary64

def zero (negative : Bool) : Binary64 :=
  ⟨negative, 0, -1074, by decide, .inr rfl, by decide⟩

def isZero (x : Binary64) : Bool := x.mantissa == 0

/-- Equality of values: the two zeros are equal. -/
def sameValue (x y : Binary64) : Bool := x == y || x.isZero && y.isZero

/-- The nearest whole number to a quotient, a half to the even one. -/
def roundQuotient (num den : Nat) : Nat :=
  let whole := num / den
  let twice := 2 * (num % den)
  if den < twice ∨ (twice = den ∧ whole % 2 = 1) then whole + 1 else whole

/-- `value · 2 ^ exponent` for a quotient, as a quotient. -/
def scale (num den : Nat) (exponent : Int) : Nat × Nat :=
  (num * Nat.pow 2 exponent.toNat, den * Nat.pow 2 (-exponent).toNat)

/-- The number of a rounded mantissa: `none` if it is out of range. -/
def ofRounded (negative : Bool) (mantissa : Nat) (exponent : Int) : Option Binary64 :=
  let (mantissa, exponent) :=
    if mantissa = Nat.pow 2 53 then (Nat.pow 2 52, exponent + 1) else (mantissa, exponent)
  if h : mantissa < Nat.pow 2 53 ∧ (Nat.pow 2 52 ≤ mantissa ∨ exponent = -1074) ∧
      exponent ≤ 971 then
    some ⟨negative, mantissa, exponent, h.1, h.2.1, h.2.2⟩
  else none

/-- The power of two that gives a quotient a mantissa of 53 bits, but at least
    the least exponent. -/
def exponentFor (num den : Nat) : Int :=
  let guess : Int := (num.log2 : Int) - den.log2 - 52
  let (n, d) := scale num den (-guess)
  max (if n < Nat.pow 2 52 * d then guess - 1 else guess) (-1074)

/-- The nearest number to `± num / den`: `none` if it is out of range. -/
def ofRatio (negative : Bool) (num den : Nat) : Option Binary64 :=
  if num = 0 then some (zero negative)
  else
    let exponent := exponentFor num den
    let (n, d) := scale num den (-exponent)
    ofRounded negative (roundQuotient n d) exponent

def ofNat (negative : Bool) (n : Nat) : Option Binary64 := ofRatio negative n 1

def mul (x y : Binary64) : Option Binary64 :=
  let (n, d) := scale (x.mantissa * y.mantissa) 1 (x.exponent + y.exponent)
  ofRatio (x.negative != y.negative) n d

def div (x y : Binary64) : Option Binary64 :=
  let (n, d) := scale x.mantissa y.mantissa (x.exponent - y.exponent)
  ofRatio (x.negative != y.negative) n d

/-- The nearest number to a power of ten; the largest in range is the 308th. -/
def tenTo (power : Nat) : Option Binary64 := ofNat false (Nat.pow 10 power)

/-- A number below `2 ^ 64` over a power of ten.  A power out of range is divided
    out in two steps; beyond twice the largest one nothing is left but the sign. -/
def divPower (x : Binary64) (power : Nat) : Option Binary64 :=
  if power ≤ 308 then do x.div (← tenTo power)
  else if power ≤ 616 then do (← x.div (← tenTo 308)).div (← tenTo (power - 308))
  else some (zero x.negative)

/-- A decimal numeral, read with one rounding each for significand, power of ten
    and result: `none` if it is out of range. -/
def ofScientific (negative : Bool) (significand : Nat) (power : Int) : Option Binary64 := do
  let x ← ofNat negative significand
  if power < 0 then x.divPower power.natAbs
  else if power ≤ 308 then x.mul (← tenTo power.toNat)
  else if x.isZero then some x
  else none

end Binary64

end Typewright.Number
