/-
  Typewright/Proofs/Json/Distinct.lean
  ====================================
  **Values without repeated keys** — JSON values in which no object has a key twice.

  A text may repeat a key, a value that was put together need not.  Where no key is
  repeated at any depth there is nothing to merge.
-/
import Typewright.Json.Basic
import Typewright.Proofs.Keyed

namespace Typewright.Json

/-! ### Sizes -/

theorem sizeOf_lt_of_mem_items {item : Json} {items : List Json} (h : item ∈ items) :
    sizeOf item < sizeOf (Json.array items) := by
  have hlt := List.sizeOf_lt_of_mem h
  rw [Json.array.sizeOf_spec]
  omega

theorem sizeOf_lt_of_mem_members {member : String × Json} {members : List (String × Json)}
    (h : member ∈ members) : sizeOf member.2 < sizeOf (Json.object members) := by
  have hlt := List.sizeOf_lt_of_mem h
  rw [Json.object.sizeOf_spec]
  rw [Prod.mk.sizeOf_spec] at hlt
  omega

/-! ### Distinct keys -/

mutual

/-- No object in the value, at any depth, has a key twice. -/
def hasDistinctKeys : Json → Bool
  | .array items => distinctItems items
  | .object members => decide (members.map (·.1)).Nodup && distinctMembers members
  | .null | .bool _ | .number _ | .string _ => true

def distinctItems : List Json → Bool
  | [] => true
  | x :: rest => x.hasDistinctKeys && distinctItems rest

def distinctMembers : List (String × Json) → Bool
  | [] => true
  | (_, x) :: rest => x.hasDistinctKeys && distinctMembers rest

end

theorem distinctItems_iff {items : List Json} :
    distinctItems items ↔ ∀ item ∈ items, item.hasDistinctKeys := by
  induction items with
  | nil => simp [distinctItems]
  | cons item rest ih => simp [distinctItems, ih]

theorem distinctMembers_iff {members : List (String × Json)} :
    distinctMembers members ↔ ∀ member ∈ members, member.2.hasDistinctKeys := by
  induction members with
  | nil => simp [distinctMembers]
  | cons member rest ih => simp [distinctMembers, ih]

theorem hasDistinctKeys_array_iff {items : List Json} :
    (Json.array items).hasDistinctKeys ↔ ∀ item ∈ items, item.hasDistinctKeys := by
  rw [hasDistinctKeys, distinctItems_iff]

theorem hasDistinctKeys_object_iff {members : List (String × Json)} :
    (Json.object members).hasDistinctKeys ↔
      (members.map (·.1)).Nodup ∧ ∀ member ∈ members, member.2.hasDistinctKeys := by
  rw [hasDistinctKeys, Bool.and_eq_true, decide_eq_true_eq, distinctMembers_iff]

/-! ### Nothing to merge -/

mutual

/-- Where no key stands twice there is nothing to merge. -/
theorem mergeKeys_eq_self : ∀ {value : Json}, value.hasDistinctKeys → value.mergeKeys = value
  | .array items, h => by
    rw [mergeKeys, mergeItems_eq_self (by rwa [hasDistinctKeys] at h)]
  | .object members, h => by
    rw [hasDistinctKeys, Bool.and_eq_true, decide_eq_true_eq] at h
    rw [mergeKeys, mergeMembers_eq_self h.2, Keyed.ofList_eq_self h.1]
  | .null, _ | .bool _, _ | .number _, _ | .string _, _ => rfl

theorem mergeItems_eq_self : ∀ {items : List Json}, distinctItems items → mergeItems items = items
  | [], _ => rfl
  | item :: rest, h => by
    rw [distinctItems, Bool.and_eq_true] at h
    rw [mergeItems, mergeKeys_eq_self h.1, mergeItems_eq_self h.2]

theorem mergeMembers_eq_self :
    ∀ {members : List (String × Json)}, distinctMembers members → mergeMembers members = members
  | [], _ => rfl
  | (key, value) :: rest, h => by
    rw [distinctMembers, Bool.and_eq_true] at h
    rw [mergeMembers, mergeKeys_eq_self h.1, mergeMembers_eq_self h.2]

end

end Typewright.Json
