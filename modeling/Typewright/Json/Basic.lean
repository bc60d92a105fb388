/-
  Typewright/Json/Basic.lean
  ==========================
  **JSON values** — with objects that keep the order of their keys, and numbers
  that remember whether they were written as whole numbers.

  An object may hold a key twice, since a text may; `mergeKeys` gives the value
  in which no key does.  `same` is equality of values: the order of keys does
  not count, `0.0` is `-0.0`, and a whole number is never a real one.
-/
import Typewright.Keyed
import Typewright.Number.Decimal

namespace Typewright

open Number (Binary64 Layout)

inductive JsonNumber where
  | whole (value : Int)
  | real (value : Binary64)
deriving DecidableEq

inductive Json where
  | null
  | bool (value : Bool)
  | number (value : JsonNumber)
  | string (value : String)
  | array (items : List Json)
  | object (members : List (String × Json))

/-! ### Equality of values -/

def JsonNumber.same : JsonNumber → JsonNumber → Bool
  | .whole m, .whole n => m == n
  | .real x, .real y => x.sameValue y
  | _, _ => false

namespace Json

mutual

def same : Json → Json → Bool
  | .null, .null => true
  | .bool a, .bool b => a == b
  | .number m, .number n => m.same n
  | .string s, .string t => s == t
  | .array xs, .array ys => sameItems xs ys
  | .object ms, .object ns => ms.length == ns.length && sameMembers ms ns
  | _, _ => false

def sameItems : List Json → List Json → Bool
  | [], [] => true
  | x :: xs, y :: ys => same x y && sameItems xs ys
  | _, _ => false

/-- Whether the second object has every member of the first. -/
def sameMembers : List (String × Json) → List (String × Json) → Bool
  | [], _ => true
  | (key, x) :: rest, ns =>
    (match Keyed.get? key ns with
      | some y => same x y
      | none => false)
    && sameMembers rest ns

end

/-! ### Merging keys -/

mutual

/-- The value with every key of an object once: the last value at the first place. -/
def mergeKeys : Json → Json
  | .array items => .array (mergeItems items)
  | .object members => .object (Keyed.ofList (mergeMembers members))
  | .null => .null
  | .bool b => .bool b
  | .number n => .number n
  | .string s => .string s

def mergeItems : List Json → List Json
  | [] => []
  | x :: rest => x.mergeKeys :: mergeItems rest

def mergeMembers : List (String × Json) → List (String × Json)
  | [] => []
  | (key, x) :: rest => (key, x.mergeKeys) :: mergeMembers rest

end

end Json

end Typewright
