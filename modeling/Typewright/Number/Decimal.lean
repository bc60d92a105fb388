/-
  Typewright/Number/Decimal.lean
  ==============================
  **Floating-point numbers in decimal** — the fewest digits that read back, and
  the layouts in which they are written.

  The reals that round to a number form an interval around it.  On the grid of
  decimals with `n` digits only the two neighbours of the number can be its
  nearest grid points, so the search takes `n = 1, 2, …, 17`, keeps the first
  grid with a neighbour in the interval, and of two takes the nearer one.

  A layout says where positional notation ends and how an exponent is written.
-/
import Typewright.Number.Binary64

namespace Typewright.Number

/-! ### Shortest digits -/

/-- `0.d₁d₂… · 10 ^ point`, with the digits as one whole number. -/
structure Decimal where
  digits : Nat
  point : Int
deriving DecidableEq

/-- Four times the number as a quotient of whole numbers, with four times the
    ends of the interval that rounds to it over the same denominator. -/
structure Interval where
  value : Nat
  low : Nat
  high : Nat
  den : Nat
  closed : Bool

/-- The interval of a number: half a step to each side, a quarter below a power
    of two, where the numbers below are closer. -/
def Binary64.interval (x : Binary64) : Interval :=
  let below := if x.mantissa = Nat.pow 2 52 ∧ x.exponent ≠ -1074 then 1 else 2
  let up := Nat.pow 2 x.exponent.toNat
  { value := 4 * x.mantissa * up
    low := (4 * x.mantissa - below) * up
    high := (4 * x.mantissa + 2) * up
    den := 4 * Nat.pow 2 (-x.exponent).toNat
    closed := x.mantissa % 2 == 0 }

/-- Whether `digits · 10 ^ -places` lies in the interval. -/
def Interval.holds (i : Interval) (digits : Nat) (places : Int) : Bool :=
  let n := digits * Nat.pow 10 (-places).toNat * i.den
  let up := Nat.pow 10 places.toNat
  if i.closed then i.low * up ≤ n && n ≤ i.high * up else i.low * up < n && n < i.high * up

/-- The nearer of the two neighbours of the number on the grid of `places`
    decimal places, if one is in the interval; `halfUp` decides a tie. -/
def Interval.onGrid (i : Interval) (halfUp : Bool) (places : Int) : Option Nat :=
  let n := i.value * Nat.pow 10 places.toNat
  let d := i.den * Nat.pow 10 (-places).toNat
  let lower := n / d
  match i.holds lower places, i.holds (lower + 1) places with
  | false, false => none
  | true, false => some lower
  | false, true => some (lower + 1)
  | true, true =>
    let twice := 2 * (n % d)
    if twice < d ∨ (twice = d ∧ !halfUp ∧ lower % 2 = 0) then some lower else some (lower + 1)

def digitCount (n : Nat) : Nat := (Nat.toDigits 10 n).length

/-- The position of the decimal point before the first digit: the least `p` with
    `value < 10 ^ p`, for a value other than zero. -/
def Interval.point (i : Interval) : Int :=
  if i.den ≤ i.value then digitCount (i.value / i.den)
  else
    let inverse := digitCount ((i.den - 1) / i.value)
    if i.den ≤ i.value * Nat.pow 10 (inverse - 1) then 2 - (inverse : Int) else 1 - (inverse : Int)

/-- Drops zeros at the end, at most `fuel` of them. -/
def trimZeros : Nat → Nat → Nat
  | 0, n => n
  | fuel + 1, n => if n % 10 = 0 then trimZeros fuel (n / 10) else n

/-- The first grid, from `count` digits on, with a neighbour in the interval. -/
def Interval.search (i : Interval) (halfUp : Bool) (point : Int) : Nat → Nat → Decimal
  | 0, _ => ⟨0, point⟩
  | fuel + 1, count =>
    match i.onGrid halfUp (count - point) with
    | some digits =>
      ⟨trimZeros 17 digits, if digits = Nat.pow 10 count then point + 1 else point⟩
    | none => i.search halfUp point fuel (count + 1)

/-- The shortest decimal that reads back as the number, of several the nearest.
    Seventeen digits always suffice. -/
def Binary64.shortest (x : Binary64) (halfUp : Bool) : Decimal :=
  if x.isZero then ⟨0, 1⟩
  else
    let i := x.interval
    i.search halfUp i.point 17 1

/-! ### Layouts -/

structure Layout where
  /-- The least decimal exponent of the first digit that is written positionally. -/
  least : Int
  /-- The first decimal exponent that is not. -/
  tooLarge : Int
  /-- Whether an exponent that is not negative has a plus sign. -/
  plusSign : Bool
  /-- Whether a tie between two shortest decimals goes up, or else to the even one. -/
  halfUp : Bool

/-- A digit string with a point after `whole` digits, padded with zeros. -/
def positional (digits : String) (point : Int) : String :=
  let count := digits.length
  if point ≤ 0 then "0." ++ "".pushn '0' (-point).toNat ++ digits
  else if count ≤ point.toNat then digits ++ "".pushn '0' (point.toNat - count) ++ ".0"
  else
    String.ofList (digits.toList.take point.toNat) ++ "."
      ++ String.ofList (digits.toList.drop point.toNat)

/-- A digit string with a point after its first digit, and an exponent. -/
def scientific (digits : String) (exponent : Int) (plusSign : Bool) : String :=
  let tail := digits.toList.drop 1
  let sign := if exponent < 0 then "-" else if plusSign then "+" else ""
  String.ofList (digits.toList.take 1)
    ++ (if tail.isEmpty then "" else "." ++ String.ofList tail)
    ++ "e" ++ sign ++ toString exponent.natAbs

def Binary64.text (x : Binary64) (layout : Layout) : String :=
  let decimal := x.shortest layout.halfUp
  let digits := toString decimal.digits
  let exponent := decimal.point - 1
  (if x.negative then "-" else "")
    ++ if x.isZero ∨ (layout.least ≤ exponent ∧ exponent < layout.tooLarge) then
        positional digits decimal.point
      else scientific digits exponent layout.plusSign

end Typewright.Number
