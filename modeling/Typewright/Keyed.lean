/-
  Typewright/Keyed.lean
  =====================
  **Maps that keep the order of their keys** — lists of pairs in which a key
  keeps the place where it was first put.

  Lookup finds the first entry of a key, and `put` replaces that entry in place,
  so a list built by `put` alone holds every key once.
-/

namespace Typewright.Keyed

variable {κ α : Type} [DecidableEq κ]

def get? (key : κ) : List (κ × α) → Option α
  | [] => none
  | (k, v) :: rest => if k = key then some v else get? key rest

def contains (key : κ) (entries : List (κ × α)) : Bool := (get? key entries).isSome

/-- Gives a key a value: in place if the key is known, else at the end. -/
def put (key : κ) (value : α) : List (κ × α) → List (κ × α)
  | [] => [(key, value)]
  | (k, v) :: rest => if k = key then (k, value) :: rest else (k, v) :: put key value rest

/-- The map of some entries: of equal keys the last value wins, at the place of
    the first. -/
def ofList (entries : List (κ × α)) : List (κ × α) :=
  entries.foldl (fun map entry => put entry.1 entry.2 map) []

end Typewright.Keyed
