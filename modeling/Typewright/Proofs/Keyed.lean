/-
  Typewright/Proofs/Keyed.lean
  ============================
  **Lookup after put** — maps that keep the order of their keys behave as maps.
-/
import Typewright.Keyed

namespace Typewright.Keyed

variable {κ α : Type}

/-- A new key at the end keeps keys distinct. -/
theorem nodup_concat {key : κ} {entries : List (κ × α)} (hdistinct : (entries.map (·.1)).Nodup)
    (hnew : key ∉ entries.map (·.1)) (value : α) :
    ((entries ++ [(key, value)]).map (·.1)).Nodup := by
  rw [List.map_append, List.nodup_append]
  refine ⟨hdistinct, by simp, ?_⟩
  rintro k hk other hother rfl
  obtain rfl := List.mem_singleton.mp hother
  exact hnew hk

variable [DecidableEq κ]

theorem mem_of_get? {key : κ} {value : α} {entries : List (κ × α)}
    (h : get? key entries = some value) : (key, value) ∈ entries := by
  induction entries with
  | nil => cases h
  | cons entry rest ih =>
    obtain ⟨k, v⟩ := entry
    by_cases hk : k = key
    · subst hk
      simp only [get?, if_true, Option.some.injEq] at h
      subst h
      exact List.mem_cons_self
    · simp only [get?, if_neg hk] at h
      exact List.mem_cons_of_mem _ (ih h)

/-- A key that stands in the list once is looked up where it stands. -/
theorem get?_eq_some_of_mem {key : κ} {value : α} {entries : List (κ × α)}
    (hdistinct : (entries.map (·.1)).Nodup) (hmem : (key, value) ∈ entries) :
    get? key entries = some value := by
  induction entries with
  | nil => cases hmem
  | cons entry rest ih =>
    obtain ⟨k, v⟩ := entry
    simp only [List.map_cons, List.nodup_cons] at hdistinct
    rcases List.mem_cons.mp hmem with heq | hrest
    · cases heq
      simp only [get?, if_true]
    · have hne : k ≠ key := by
        rintro rfl
        exact hdistinct.1 (List.mem_map_of_mem (f := (·.1)) hrest)
      simp only [get?, if_neg hne]
      exact ih hdistinct.2 hrest

theorem get?_put_self (key : κ) (value : α) (entries : List (κ × α)) :
    get? key (put key value entries) = some value := by
  induction entries with
  | nil => simp [put, get?]
  | cons entry rest ih =>
    obtain ⟨k, v⟩ := entry
    by_cases hk : k = key
    · simp [put, get?, hk]
    · simp [put, get?, hk, ih]

theorem get?_put_of_ne {key other : κ} (hne : other ≠ key) (value : α)
    (entries : List (κ × α)) : get? other (put key value entries) = get? other entries := by
  induction entries with
  | nil => simp [put, get?, hne.symm]
  | cons entry rest ih =>
    obtain ⟨k, v⟩ := entry
    by_cases hk : k = key
    · subst hk
      simp [put, get?, hne.symm]
    · rw [put, if_neg hk]
      simp only [get?, ih]

/-- The keys after a put: the same ones, or one more at the end. -/
theorem keys_put (key : κ) (value : α) (entries : List (κ × α)) :
    (put key value entries).map (·.1) =
      if key ∈ entries.map (·.1) then entries.map (·.1) else entries.map (·.1) ++ [key] := by
  induction entries with
  | nil => simp [put]
  | cons entry rest ih =>
    obtain ⟨k, v⟩ := entry
    by_cases hk : k = key
    · simp [put, hk]
    · have hkey : key ≠ k := fun h => hk h.symm
      simp only [put, if_neg hk, List.map_cons, ih, List.mem_cons, hkey, false_or]
      split <;> rfl

/-! ### Keys that are known and keys that are new -/

theorem contains_iff {key : κ} {entries : List (κ × α)} :
    contains key entries ↔ key ∈ entries.map (·.1) := by
  unfold contains
  induction entries with
  | nil => simp [get?]
  | cons entry rest ih =>
    obtain ⟨k, v⟩ := entry
    by_cases hk : k = key
    · simp [get?, hk]
    · have hkey : key ≠ k := fun h => hk h.symm
      simp only [get?, if_neg hk, ih, List.map_cons, List.mem_cons, hkey, false_or]

theorem put_of_not_mem {key : κ} {entries : List (κ × α)} (hnew : key ∉ entries.map (·.1))
    (value : α) : put key value entries = entries ++ [(key, value)] := by
  induction entries with
  | nil => rfl
  | cons entry rest ih =>
    obtain ⟨k, v⟩ := entry
    rw [List.map_cons, List.mem_cons, not_or] at hnew
    rw [put, if_neg (fun h => hnew.1 h.symm), ih hnew.2, List.cons_append]

/-- Of two values for one key, the last one stays. -/
theorem put_put (key : κ) (value last : α) (entries : List (κ × α)) :
    put key last (put key value entries) = put key last entries := by
  induction entries with
  | nil => simp [put]
  | cons entry rest ih =>
    obtain ⟨k, v⟩ := entry
    by_cases hk : k = key
    · simp [put, hk]
    · simp [put, hk, ih]

/-- A known key has its place, so it does not matter when it gets its value. -/
theorem put_comm {key other : κ} {entries : List (κ × α)} (hne : other ≠ key)
    (hknown : key ∈ entries.map (·.1)) (value new : α) :
    put other new (put key value entries) = put key value (put other new entries) := by
  induction entries with
  | nil => cases hknown
  | cons entry rest ih =>
    obtain ⟨k, v⟩ := entry
    by_cases hk : k = key
    · subst hk
      simp [put, hne.symm]
    · by_cases hother : k = other
      · subst hother
        simp [put, hk]
      · have hrest : key ∈ rest.map (·.1) := by
          rw [List.map_cons, List.mem_cons] at hknown
          exact hknown.resolve_left fun h => hk h.symm
        simp [put, hk, hother, ih hrest]

/-! ### Maps of entries -/

theorem foldl_put_eq_append {known entries : List (κ × α)}
    (hdistinct : ((known ++ entries).map (·.1)).Nodup) :
    entries.foldl (fun map entry => put entry.1 entry.2 map) known = known ++ entries := by
  induction entries generalizing known with
  | nil => rw [List.foldl_nil, List.append_nil]
  | cons entry rest ih =>
    have hnew : entry.1 ∉ known.map (·.1) := by
      intro hknown
      rw [List.map_append, List.nodup_append] at hdistinct
      exact hdistinct.2.2 _ hknown _ List.mem_cons_self rfl
    rw [List.foldl_cons, put_of_not_mem hnew, ih, List.append_assoc, List.singleton_append]
    rwa [List.append_assoc, List.singleton_append]

/-- Entries with distinct keys are a map already. -/
theorem ofList_eq_self {entries : List (κ × α)} (hdistinct : (entries.map (·.1)).Nodup) :
    ofList entries = entries := foldl_put_eq_append hdistinct

/-! ### Other entries -/

/-- Where no key stands twice, the order of the entries does not matter. -/
theorem get?_perm {entries others : List (κ × α)} (hperm : entries.Perm others)
    (hdistinct : (entries.map (·.1)).Nodup) (key : κ) : get? key others = get? key entries := by
  have hdistinct' : (others.map (·.1)).Nodup := (hperm.map _).nodup_iff.mp hdistinct
  cases hget : get? key entries with
  | some value =>
    exact get?_eq_some_of_mem hdistinct' (hperm.mem_iff.mp (mem_of_get? hget))
  | none =>
    cases hother : get? key others with
    | none => rfl
    | some value =>
      have hmem := hperm.mem_iff.mpr (mem_of_get? hother)
      rw [get?_eq_some_of_mem hdistinct hmem] at hget
      cases hget

theorem get?_insert {key other : κ} (hne : key ≠ other) (value : α) (before after : List (κ × α)) :
    get? key (before ++ (other, value) :: after) = get? key (before ++ after) := by
  induction before with
  | nil => simp only [List.nil_append, get?, if_neg hne.symm]
  | cons entry rest ih =>
    obtain ⟨k, v⟩ := entry
    simp only [List.cons_append, get?, ih]

end Typewright.Keyed
