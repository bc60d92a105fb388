/-
  Typewright/Proofs/Types/Collected.lean
  ======================================
  **What a trace collects** — the findings of results put together, and the
  dependencies that are kept of them.

  Of the inner schemas that a definition meets, the first of every kind and field
  is kept.  So all of them are spoken for, though not each by itself: one that is
  dropped leaves its place to the one that was kept.
-/
import Mathlib.Data.List.Induction
import Typewright.Types.Traced

namespace Typewright

/-! ### Traces put together -/

namespace Traced

variable {α β : Type}

@[simp] theorem value_pure (a : α) : (pure a : Traced α).value = a := rfl

@[simp] theorem names_pure (a : α) : (pure a : Traced α).names = [] := rfl

@[simp] theorem inlined_pure (a : α) : (pure a : Traced α).inlined = [] := rfl

@[simp] theorem notices_pure (a : α) : (pure a : Traced α).notices = [] := rfl

@[simp] theorem value_bind (t : Traced α) (f : α → Traced β) :
    (t >>= f).value = (f t.value).value := rfl

@[simp] theorem names_bind (t : Traced α) (f : α → Traced β) :
    (t >>= f).names = t.names ++ (f t.value).names := rfl

@[simp] theorem inlined_bind (t : Traced α) (f : α → Traced β) :
    (t >>= f).inlined = t.inlined ++ (f t.value).inlined := rfl

@[simp] theorem notices_bind (t : Traced α) (f : α → Traced β) :
    (t >>= f).notices = t.notices ++ (f t.value).notices := rfl

@[simp] theorem value_map (f : α → β) (t : Traced α) : (f <$> t).value = f t.value := rfl

@[simp] theorem names_map (f : α → β) (t : Traced α) : (f <$> t).names = t.names :=
  List.append_nil _

@[simp] theorem inlined_map (f : α → β) (t : Traced α) : (f <$> t).inlined = t.inlined :=
  List.append_nil _

@[simp] theorem notices_map (f : α → β) (t : Traced α) : (f <$> t).notices = t.notices :=
  List.append_nil _

end Traced

/-! ### Dependencies that are kept -/

namespace Traced

variable {α β : Type}

theorem dependencies_congr {t : Traced α} {u : Traced β} (hnames : t.names = u.names)
    (hinlined : t.inlined = u.inlined) : t.dependencies = u.dependencies := by
  unfold dependencies addTo
  rw [hnames, hinlined]

@[simp] theorem dependencies_map (f : α → β) (t : Traced α) :
    (f <$> t).dependencies = t.dependencies :=
  dependencies_congr (names_map f t) (inlined_map f t)

end Traced

/-- Two inner schemas that share one entry of the dependencies. -/
def Dependency.Same (d e : Dependency) : Prop := d.kind = e.kind ∧ d.field = e.field

namespace Dependencies

theorem addName_inlined (deps : Dependencies) (name : String) :
    (deps.addName name).inlined = deps.inlined := by
  unfold addName
  split <;> rfl

theorem accepts_iff {deps : Dependencies} {d : Dependency} :
    deps.accepts d ↔ ∀ e ∈ deps.inlined, ¬ e.Same d := by
  simp [accepts, Dependency.Same]

theorem mem_addInlined {deps : Dependencies} {d e : Dependency} :
    e ∈ (deps.addInlined d).inlined ↔ e ∈ deps.inlined ∨ deps.accepts d ∧ e = d := by
  unfold addInlined
  split
  · next haccepts => simp [haccepts]
  · next hrefuses => simp [hrefuses]

/-- After a step, the schema has an entry. -/
theorem exists_same_addInlined (deps : Dependencies) (d : Dependency) :
    ∃ e ∈ (deps.addInlined d).inlined, e.Same d := by
  by_cases hentry : ∃ e ∈ deps.inlined, e.Same d
  · obtain ⟨e, he, hsame⟩ := hentry
    exact ⟨e, mem_addInlined.mpr (Or.inl he), hsame⟩
  · have haccepts : deps.accepts d := accepts_iff.mpr fun e he hsame => hentry ⟨e, he, hsame⟩
    exact ⟨d, mem_addInlined.mpr (Or.inr ⟨haccepts, rfl⟩), rfl, rfl⟩

theorem mem_foldl_addInlined {deps : Dependencies} {met : List Dependency} {e : Dependency}
    (he : e ∈ (met.foldl addInlined deps).inlined) : e ∈ deps.inlined ∨ e ∈ met := by
  induction met generalizing deps with
  | nil => exact Or.inl he
  | cons d rest ih =>
    rcases ih he with hmem | hmem
    · rcases mem_addInlined.mp hmem with hold | ⟨_, rfl⟩
      · exact Or.inl hold
      · exact Or.inr List.mem_cons_self
    · exact Or.inr (List.mem_cons_of_mem _ hmem)

theorem foldl_addInlined_mono {deps : Dependencies} (met : List Dependency) {e : Dependency}
    (he : e ∈ deps.inlined) : e ∈ (met.foldl addInlined deps).inlined := by
  induction met generalizing deps with
  | nil => exact he
  | cons d rest ih => exact ih (mem_addInlined.mpr (Or.inl he))

theorem exists_same_foldl_addInlined {deps : Dependencies} {met : List Dependency}
    {d : Dependency} (hd : d ∈ met) : ∃ e ∈ (met.foldl addInlined deps).inlined, e.Same d := by
  induction met generalizing deps with
  | nil => cases hd
  | cons head rest ih =>
    rcases List.mem_cons.mp hd with rfl | hrest
    · obtain ⟨e, he, hsame⟩ := exists_same_addInlined deps d
      exact ⟨e, foldl_addInlined_mono rest he, hsame⟩
    · exact ih hrest

theorem foldl_addName_inlined (names : List String) (deps : Dependencies) :
    (names.foldl addName deps).inlined = deps.inlined := by
  induction names generalizing deps with
  | nil => rfl
  | cons name rest ih => rw [List.foldl_cons, ih, addName_inlined]

theorem foldl_addInlined_names (met : List Dependency) (deps : Dependencies) :
    (met.foldl addInlined deps).names = deps.names := by
  induction met generalizing deps with
  | nil => rfl
  | cons d rest ih =>
    rw [List.foldl_cons, ih]
    unfold addInlined
    split <;> rfl

theorem addName_names (deps : Dependencies) (name : String) :
    (deps.addName name).names =
      if name = "" ∨ name ∈ deps.names then deps.names else deps.names ++ [name] := by
  unfold addName
  split <;> rfl

/-- Of the names that are added, each is kept where it comes first, but for the empty
    one. -/
theorem foldl_addName_names (names : List String) :
    (names.foldl addName {}).names = (names.filter (· ≠ "")).eraseDups := by
  induction names using List.reverseRecOn with
  | nil => rfl
  | append_singleton names name ih =>
    rw [List.foldl_append, List.foldl_cons, List.foldl_nil, addName_names, ih,
      List.filter_append, List.eraseDups_append]
    by_cases hempty : name = ""
    · simp [hempty, List.removeAll]
    · by_cases hold : name ∈ names
      · simp [hempty, hold, List.removeAll]
      · simp [hempty, hold, List.removeAll, List.eraseDups_cons]

end Dependencies

namespace Traced

variable {α : Type}

theorem mem_inlined_of_mem_dependencies {traced : Traced α} {d : Dependency}
    (hd : d ∈ traced.dependencies.inlined) : d ∈ traced.inlined := by
  rcases Dependencies.mem_foldl_addInlined hd with h | h
  · rw [Dependencies.foldl_addName_inlined] at h
    cases h
  · exact h

/-- All that is met has an entry, its own or that of another one. -/
theorem exists_same_of_mem_inlined {traced : Traced α} {d : Dependency}
    (hd : d ∈ traced.inlined) : ∃ e ∈ traced.dependencies.inlined, e.Same d :=
  Dependencies.exists_same_foldl_addInlined hd

end Traced

end Typewright
