/-
  Typewright/Proofs/Types/Additions.lean
  ======================================
  **Calls that add dependencies** — what any sequence of them leaves behind.

  While a definition is made, names and inner schemas are added to its dependencies
  in turns.  A call of one kind does not touch what calls of the other kind look at, so
  the names may as well be added first (`run_fst`), as it is done with a trace.  What is
  kept is what comes first: of equal names, but for the empty one, and of the inner
  schemas of one kind and field (`run_keeps_first`).

  A call that adds an inner schema answers whether an entry was made for it.
-/
import Typewright.Proofs.Types.Collected

namespace Typewright

/-! ### Calls -/

/-- A call that adds to the dependencies of a definition. -/
inductive Addition where
  | name (name : String)
  | inlined (dependency : Dependency)

namespace Addition

def name? : Addition → Option String
  | .name added => some added
  | .inlined _ => none

def inlined? : Addition → Option Dependency
  | .name _ => none
  | .inlined added => some added

/-- The entry that was made by a call with this answer. -/
def entry? : Addition × Option Bool → Option Dependency
  | (.inlined dependency, some true) => some dependency
  | _ => none

end Addition

theorem filterMap_filter_isSome {α β : Type} (f : α → Option β) (list : List α) :
    (list.filter (f · |>.isSome)).filterMap f = list.filterMap f := by
  rw [List.filterMap_filter]
  congr 1
  funext a
  cases f a <;> simp

instance : DecidableRel Dependency.Same := fun d e =>
  inferInstanceAs (Decidable (d.kind = e.kind ∧ d.field = e.field))

theorem Dependency.Same.symm {d e : Dependency} (h : d.Same e) : e.Same d :=
  ⟨h.1.symm, h.2.symm⟩

theorem Dependency.Same.trans {d e f : Dependency} (h : d.Same e) (h' : e.Same f) : d.Same f :=
  ⟨h.1.trans h'.1, h.2.trans h'.2⟩

namespace Dependencies

/-- One call: the dependencies after it, and the answer of a call that gives one. -/
def add (deps : Dependencies) : Addition → Dependencies × Option Bool
  | .name name => (deps.addName name, none)
  | .inlined dependency => (deps.addInlined dependency, some (deps.accepts dependency))

/-- A sequence of calls: the dependencies after the last one, and all answers. -/
def run : Dependencies → List Addition → Dependencies × List (Option Bool)
  | deps, [] => (deps, [])
  | deps, call :: rest =>
    let (next, answer) := deps.add call
    let (last, answers) := next.run rest
    (last, answer :: answers)

theorem run_cons (deps : Dependencies) (call : Addition) (rest : List Addition) :
    deps.run (call :: rest) =
      (((deps.add call).1.run rest).1, (deps.add call).2 :: ((deps.add call).1.run rest).2) :=
  rfl

/-- A call between others answers by what those before it have left. -/
theorem getElem?_run (deps : Dependencies) (before : List Addition) (call : Addition)
    (after : List Addition) :
    (deps.run (before ++ call :: after)).2[before.length]? =
      some ((deps.run before).1.add call).2 := by
  induction before generalizing deps with
  | nil => rfl
  | cons first rest ih =>
    rw [List.cons_append, run_cons, List.length_cons, List.getElem?_cons_succ, ih]
    rfl

/-! ### Calls of different kinds -/

theorem addName_addInlined (deps : Dependencies) (name : String) (d : Dependency) :
    (deps.addInlined d).addName name = (deps.addName name).addInlined d := by
  unfold addInlined addName accepts
  split <;> split <;> simp_all

theorem foldl_addName_addInlined (names : List String) (deps : Dependencies) (d : Dependency) :
    names.foldl addName (deps.addInlined d) = (names.foldl addName deps).addInlined d := by
  induction names generalizing deps with
  | nil => rfl
  | cons name rest ih => rw [List.foldl_cons, addName_addInlined, ih, List.foldl_cons]

/-- The order among calls of different kinds does not matter: the names may be added
    first. -/
theorem run_fst (deps : Dependencies) (calls : List Addition) :
    (deps.run calls).1 =
      (calls.filterMap Addition.inlined?).foldl addInlined
        ((calls.filterMap Addition.name?).foldl addName deps) := by
  induction calls generalizing deps with
  | nil => rfl
  | cons call rest ih =>
    rw [run_cons, ih]
    cases call with
    | name name => rfl
    | inlined d => exact congrArg (List.foldl addInlined · _) (foldl_addName_addInlined _ deps d)

/-- So a trace, which has its names apart from its inner schemas, adds what the calls
    would have added one by one. -/
theorem addTo_eq_run {α : Type} {traced : Traced α} {calls : List Addition}
    (hnames : calls.filterMap Addition.name? = traced.names)
    (hinlined : calls.filterMap Addition.inlined? = traced.inlined) (deps : Dependencies) :
    traced.addTo deps = (deps.run calls).1 := by
  rw [run_fst, hnames, hinlined, Traced.addTo]

theorem names_run (deps : Dependencies) (calls : List Addition) :
    (deps.run calls).1.names = ((calls.filterMap Addition.name?).foldl addName deps).names := by
  rw [run_fst, foldl_addInlined_names]

/-! ### Entries -/

/-- With one more entry, inner schemas of its kind and field are not accepted. -/
theorem accepts_append (deps : Dependencies) (d : Dependency) :
    accepts { deps with inlined := deps.inlined ++ [d] } =
      fun e => decide (decide (e.Same d) = false) && deps.accepts e := by
  funext e
  rw [Bool.eq_iff_iff, accepts_iff, Bool.and_eq_true, accepts_iff]
  simp only [List.mem_append, List.mem_singleton, decide_eq_false_iff_not, decide_eq_true_eq]
  constructor
  · intro h
    exact ⟨fun hsame => h d (Or.inr rfl) hsame.symm, fun f hf => h f (Or.inl hf)⟩
  · rintro ⟨hnew, hold⟩ f (hf | rfl)
    · exact hold f hf
    · exact fun hsame => hnew hsame.symm

/-- Of the inner schemas that are accepted at the start, the first of every kind and
    field is kept. -/
theorem foldl_addInlined_inlined (met : List Dependency) (deps : Dependencies) :
    (met.foldl addInlined deps).inlined =
      deps.inlined ++ (met.filter deps.accepts).eraseDupsBy fun d e => decide (d.Same e) := by
  induction met generalizing deps with
  | nil => exact (List.append_nil _).symm
  | cons d rest ih =>
    rw [List.foldl_cons, ih]
    by_cases haccepts : deps.accepts d
    · rw [List.filter_cons_of_pos haccepts, List.eraseDupsBy_cons, List.filter_filter, addInlined,
        if_pos haccepts]
      simp only [accepts_append, List.append_assoc, List.singleton_append]
    · rw [List.filter_cons_of_neg haccepts, addInlined, if_neg haccepts]

theorem inlined_run (calls : List Addition) :
    (run {} calls).1.inlined =
      (calls.filterMap Addition.inlined?).eraseDupsBy fun d e => decide (d.Same e) := by
  have hnone : ((calls.filterMap Addition.name?).foldl addName {}).inlined = [] :=
    foldl_addName_inlined _ {}
  have hall : ((calls.filterMap Addition.name?).foldl addName {}).accepts = fun _ => true := by
    funext d
    rw [accepts, hnone]
    rfl
  rw [run_fst, foldl_addInlined_inlined, hnone, hall, List.filter_eq_self.mpr fun _ _ => rfl,
    List.nil_append]

/-- The entries are those of the calls whose answer says so. -/
theorem inlined_run_eq_filterMap (deps : Dependencies) (calls : List Addition) :
    (deps.run calls).1.inlined =
      deps.inlined ++ (calls.zip (deps.run calls).2).filterMap Addition.entry? := by
  induction calls generalizing deps with
  | nil => exact (List.append_nil _).symm
  | cons call rest ih =>
    rw [run_cons, ih, List.zip_cons_cons, List.filterMap_cons]
    cases call with
    | name name => exact congrArg (· ++ _) (addName_inlined deps name)
    | inlined d =>
      by_cases haccepts : deps.accepts d
      · simp only [add, addInlined, haccepts, if_true, Addition.entry?, List.append_assoc,
          List.singleton_append]
      · simp only [add, addInlined, haccepts, Addition.entry?]
        rfl

/-- After a sequence of calls, an inner schema is accepted just if none of its kind and
    field was added. -/
theorem accepts_run_iff {calls : List Addition} {d : Dependency} :
    (run {} calls).1.accepts d ↔ ∀ e, .inlined e ∈ calls → ¬ e.Same d := by
  have hmem : ∀ e, e ∈ calls.filterMap Addition.inlined? ↔ .inlined e ∈ calls := by
    intro e
    rw [List.mem_filterMap]
    constructor
    · rintro ⟨call, hcall, heq⟩
      cases call with
      | name name => cases heq
      | inlined d =>
        cases heq
        exact hcall
    · exact fun hcall => ⟨.inlined e, hcall, rfl⟩
  rw [accepts_iff, run_fst]
  constructor
  · intro h e he hsame
    obtain ⟨entry, hentry, hlike⟩ := exists_same_foldl_addInlined ((hmem e).mpr he)
    exact h entry hentry (hlike.trans hsame)
  · intro h e he
    rcases mem_foldl_addInlined he with hold | hnew
    · rw [foldl_addName_inlined] at hold
      cases hold
    · exact h e ((hmem e).mp hnew)

/-- **Calls that add dependencies.**  After any sequence of calls, the names are those
    that were added, each where it comes first and but for the empty one.  The entries
    are the inner schemas that were added, for every kind and field the first one, and
    these are the ones whose call answered that an entry was made: it does so just if no
    call before it had the same kind and field.  Without the calls of the other kind,
    both lists are the same. -/
theorem run_keeps_first (calls : List Addition) :
    let last := (run {} calls).1
    let answers := (run {} calls).2
    last.names = ((calls.filterMap Addition.name?).filter (· ≠ "")).eraseDups ∧
      last.inlined =
        ((calls.filterMap Addition.inlined?).eraseDupsBy fun d e => decide (d.Same e)) ∧
      last.inlined = (calls.zip answers).filterMap Addition.entry? ∧
      (∀ before d after, calls = before ++ .inlined d :: after →
        ∃ kept : Bool, answers[before.length]? = some (some kept) ∧
          (kept ↔ ∀ e, .inlined e ∈ before → ¬ e.Same d)) ∧
      (run {} (calls.filter (·.name?.isSome))).1.names = last.names ∧
      (run {} (calls.filter (·.inlined?.isSome))).1.inlined = last.inlined := by
  intro last answers
  refine ⟨?_, inlined_run calls, ?_, ?_, ?_, ?_⟩
  · rw [← foldl_addName_names]
    exact names_run {} calls
  · exact (inlined_run_eq_filterMap {} calls).trans (List.nil_append _)
  · rintro before d after rfl
    exact ⟨_, getElem?_run {} before (.inlined d) after, accepts_run_iff⟩
  · simp only [last, names_run, filterMap_filter_isSome]
  · simp only [last, inlined_run, filterMap_filter_isSome]

end Dependencies

end Typewright
