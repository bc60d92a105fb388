/-
  Typewright/Proofs/Render/Emission.lean
  ======================================
  **Runs of emission** — what is rendered on the side, as a relation without a
  bound on chains.

  `Options.emit` follows chains of dependencies up to a bound.  `Options.Emits` is
  the same search as rules of inference, with the dependencies it renders as they
  are finished.  Every step of a chain goes further down, so where no list reaches
  itself the search comes to its end, and `emit` finds it (`emits_emit`).

  What holds of every run is proved over the rules: every definition is that of a
  dependency, no name is defined twice, a name keeps the schema that took it, and
  every dependency is seen through, by its own definition or with a warning.
-/
import Typewright.Proofs.Render.Definition

namespace Typewright

open Relation (ReflTransGen TransGen)

/-! ### Rules -/

namespace Options

/-- The emission after the dependency has taken its name and reported its
    notices. -/
def begin (options : Options) (registry : Registry) (state : Emission) (d : Dependency) :
    Emission :=
  (state.claim d.typeName d.site.place).report ((Definition.side d).render options registry).notices

/-- The emission after a warning that the name is taken. -/
def refuse (state : Emission) (d : Dependency) : Emission :=
  state.report [.nameTaken d.typeName d.field d.parentName]

section

variable {options : Options} {registry : Registry} {state : Emission} {d : Dependency}

theorem get?_begin_self :
    Keyed.get? d.typeName (options.begin registry state d).seen = some d.site.place :=
  Keyed.get?_put_self d.typeName d.site.place state.seen

theorem get?_begin_of_ne {name : String} (hne : name ≠ d.typeName) :
    Keyed.get? name (options.begin registry state d).seen = Keyed.get? name state.seen :=
  Keyed.get?_put_of_ne hne d.site.place state.seen

/-- A dependency that takes a free name leaves the others as they are. -/
theorem get?_begin_of_get? (hfree : Keyed.get? d.typeName state.seen = none) {name : String}
    {place : Place} (hseen : Keyed.get? name state.seen = some place) :
    Keyed.get? name (options.begin registry state d).seen = some place := by
  have hne : name ≠ d.typeName := by
    rintro rfl
    rw [hfree] at hseen
    cases hseen
  rw [get?_begin_of_ne hne]
  exact hseen

theorem get?_begin_cases {name : String} {place : Place}
    (hseen : Keyed.get? name (options.begin registry state d).seen = some place) :
    Keyed.get? name state.seen = some place ∨ d.typeName = name ∧ d.site.place = place := by
  by_cases hname : name = d.typeName
  · subst hname
    rw [get?_begin_self] at hseen
    exact Or.inr ⟨rfl, Option.some.inj hseen⟩
  · rw [get?_begin_of_ne hname] at hseen
    exact Or.inl hseen

end

/-- `options.Emits registry ds state sources final`: rendering the dependencies and
    all they need leads from one emission to the other, and finishes the sources
    in this order. -/
inductive Emits (options : Options) (registry : Registry) :
    List Dependency → Emission → List Dependency → Emission → Prop where
  | done (state : Emission) : options.Emits registry [] state [] state
  /-- The schema has the name already. -/
  | again {d : Dependency} {rest sources : List Dependency} {state final : Emission}
      (hseen : Keyed.get? d.typeName state.seen = some d.site.place)
      (hrest : options.Emits registry rest state sources final) :
      options.Emits registry (d :: rest) state sources final
  /-- Another schema has the name. -/
  | clash {d : Dependency} {rest sources : List Dependency} {state final : Emission}
      {place : Place} (hseen : Keyed.get? d.typeName state.seen = some place)
      (hother : place ≠ d.site.place)
      (hrest : options.Emits registry rest (refuse state d) sources final) :
      options.Emits registry (d :: rest) state sources final
  /-- The name is free: what the definition needs comes first, then itself. -/
  | fresh {d : Dependency} {rest inner later : List Dependency} {state middle final : Emission}
      (hfree : Keyed.get? d.typeName state.seen = none)
      (hinner : options.Emits registry ((Definition.side d).needs options registry)
        (options.begin registry state d) inner middle)
      (hrest : options.Emits registry rest
        (middle.define ((Definition.side d).render options registry)) later final) :
      options.Emits registry (d :: rest) state (inner ++ d :: later) final

end Options

/-! ### Every emission is a run -/

namespace Options

variable {options : Options} {registry : Registry}

theorem emitWithin_nil (fuel : Nat) (state : Emission) :
    options.emitWithin registry fuel [] state = state := by
  cases fuel <;> rfl

theorem emitWithin_cons (fuel : Nat) (d : Dependency) (rest : List Dependency) (state : Emission) :
    options.emitWithin registry (fuel + 1) (d :: rest) state =
      options.emitWithin registry (fuel + 1) rest
        (options.emitWith registry (options.emitWithin registry fuel) state d) := rfl

section

variable {emitAll : List Dependency → Emission → Emission} {state : Emission} {d : Dependency}

theorem emitWith_again (hseen : Keyed.get? d.typeName state.seen = some d.site.place) :
    options.emitWith registry emitAll state d = state := by
  simp only [emitWith, hseen, if_true]

theorem emitWith_clash {place : Place} (hseen : Keyed.get? d.typeName state.seen = some place)
    (hother : place ≠ d.site.place) :
    options.emitWith registry emitAll state d = refuse state d := by
  simp only [emitWith, hseen, if_neg hother, refuse]

theorem emitWith_fresh (hfree : Keyed.get? d.typeName state.seen = none) :
    options.emitWith registry emitAll state d =
      (emitAll ((Definition.side d).needs options registry) (options.begin registry state d)).define
        ((Definition.side d).render options registry) := by
  simp only [emitWith, hfree]
  rfl

end

/-- The bound is made for the nodes of the registry and of all dependencies. -/
theorem size_le_namingSize (registry : Registry) (state : Emission) {ds : List Dependency}
    {d : Dependency} (hd : d ∈ ds) :
    registry.size + d.site.node.size ≤ namingSize registry ds state := by
  have hsum : d.site.node.size ≤
      total (fun needed => needed.typeName.length + needed.site.node.size) ds := by
    induction ds with
    | nil => cases hd
    | cons first rest ih =>
      simp only [total]
      rcases List.mem_cons.mp hd with rfl | hrest
      · omega
      · have hle := ih hrest
        omega
  unfold namingSize
  omega

/-- One step: if what the dependency needs is emitted with one unit of fuel less and
    the rest is emitted after it, then so are all. -/
theorem emits_cons {fuel : Nat} {d : Dependency} {rest : List Dependency} {state : Emission}
    (hneeds : ∃ inner, options.Emits registry ((Definition.side d).needs options registry)
      (options.begin registry state d) inner
      (options.emitWithin registry fuel ((Definition.side d).needs options registry)
        (options.begin registry state d)))
    (hrest : ∀ state, ∃ later, options.Emits registry rest state later
      (options.emitWithin registry (fuel + 1) rest state)) :
    ∃ sources, options.Emits registry (d :: rest) state sources
      (options.emitWithin registry (fuel + 1) (d :: rest) state) := by
  rw [emitWithin_cons]
  cases hget : Keyed.get? d.typeName state.seen with
  | some place =>
    by_cases hplace : place = d.site.place
    · subst hplace
      rw [emitWith_again hget]
      obtain ⟨sources, hemits⟩ := hrest state
      exact ⟨sources, .again hget hemits⟩
    · rw [emitWith_clash hget hplace]
      obtain ⟨sources, hemits⟩ := hrest (refuse state d)
      exact ⟨sources, .clash hget hplace hemits⟩
  | none =>
    rw [emitWith_fresh hget]
    obtain ⟨inner, hinner⟩ := hneeds
    obtain ⟨later, hlater⟩ := hrest
      ((options.emitWithin registry fuel ((Definition.side d).needs options registry)
        (options.begin registry state d)).define ((Definition.side d).render options registry))
    exact ⟨inner ++ d :: later, .fresh hget hinner hlater⟩

/-- The bound of a registry is good for all chains of one that is no larger. -/
theorem settles_of_emitBudget {other : Registry} (hlists : registry.ListsEnd)
    (hsize : registry.size ≤ other.size) {ds : List Dependency} (state : Emission) {d : Dependency}
    (hd : d ∈ ds) : ∃ n < emitBudget other ds state, registry.Settles n d.site := by
  have hbudget : namingSize other ds state < emitBudget other ds state :=
    Nat.lt_trans (Nat.lt_succ_self _) Nat.lt_two_pow_self
  have hnaming := size_le_namingSize other state hd
  have hlist := registry.listSize_le_size
  exact ⟨namingSize other ds state, hbudget, hlists.settles d.site (by omega)⟩

section

variable (hhooks : options.hooks = {}) (hwf : registry.WellFormed) (hlists : registry.ListsEnd)
include hhooks hwf hlists

/-- Chains with less steps than there is fuel are followed to their ends. -/
theorem emits_emitWithin {fuel : Nat} (ds : List Dependency) (state : Emission)
    (hsettles : ∀ d ∈ ds, ∃ n < fuel, registry.Settles n d.site) :
    ∃ sources, options.Emits registry ds state sources
      (options.emitWithin registry fuel ds state) := by
  induction fuel generalizing ds state with
  | zero =>
    have hnil : ds = [] := by
      apply List.eq_nil_iff_forall_not_mem.mpr
      intro d hd
      obtain ⟨n, hn, -⟩ := hsettles d hd
      exact Nat.not_lt_zero n hn
    subst hnil
    exact ⟨[], .done state⟩
  | succ fuel ih =>
    -- the dependencies in order; what one of them needs is a shorter chain
    induction ds generalizing state with
    | nil => exact ⟨[], .done state⟩
    | cons d rest ihrest =>
      apply emits_cons
      · apply ih
        intro e he
        obtain ⟨n, hn, hd⟩ := hsettles d List.mem_cons_self
        have hleads := Definition.leads_of_mem_needs hhooks hwf hlists (.side d) he
        obtain ⟨m, rfl, he⟩ := hd.path hleads
        exact ⟨m, Nat.lt_of_succ_lt_succ hn, he⟩
      · intro state
        apply ihrest
        intro e he
        exact hsettles e (List.mem_cons_of_mem _ he)

/-- **Emission ends.**  Where no list reaches itself, the bound on chains is never
    met. -/
theorem emits_emit (ds : List Dependency) (state : Emission) :
    ∃ sources, options.Emits registry ds state sources (options.emit registry ds state) := by
  apply emits_emitWithin hhooks hwf hlists
  intro d hd
  exact settles_of_emitBudget hlists (Nat.le_refl _) state hd

end

/-! ### What a run keeps -/

namespace Emits

variable {ds sources : List Dependency} {state final : Emission}

theorem sources_eq_nil (h : options.Emits registry [] state sources final) : sources = [] := by
  cases h
  rfl

/-- A name keeps the schema that has it. -/
theorem get?_of_get? (h : options.Emits registry ds state sources final) {name : String}
    {place : Place} (hseen : Keyed.get? name state.seen = some place) :
    Keyed.get? name final.seen = some place := by
  induction h with
  | done => exact hseen
  | again _ _ ih => exact ih hseen
  | clash _ _ _ ih => exact ih hseen
  | fresh hfree _ _ ihinner ihrest => exact ihrest (ihinner (get?_begin_of_get? hfree hseen))

theorem get?_eq_none (h : options.Emits registry ds state sources final) {name : String}
    (hnone : Keyed.get? name final.seen = none) : Keyed.get? name state.seen = none := by
  cases hseen : Keyed.get? name state.seen with
  | none => rfl
  | some place =>
    rw [h.get?_of_get? hseen] at hnone
    cases hnone

/-- A name that is taken was taken before or belongs to a source. -/
theorem get?_cases (h : options.Emits registry ds state sources final) {name : String}
    {place : Place} (hseen : Keyed.get? name final.seen = some place) :
    Keyed.get? name state.seen = some place ∨
      ∃ d ∈ sources, d.typeName = name ∧ d.site.place = place := by
  induction h with
  | done => exact Or.inl hseen
  | again _ _ ih => exact ih hseen
  | clash _ _ _ ih => exact ih hseen
  | @fresh d _ _ _ _ _ _ _ _ _ ihinner ihrest =>
    rcases ihrest hseen with hmiddle | ⟨e, he, hname, hplace⟩
    · rcases ihinner hmiddle with hbegun | ⟨e, he, hname, hplace⟩
      · rcases get?_begin_cases hbegun with hbefore | hown
        · exact Or.inl hbefore
        · exact Or.inr ⟨d, List.mem_append_right _ List.mem_cons_self, hown⟩
      · exact Or.inr ⟨e, List.mem_append_left _ he, hname, hplace⟩
    · exact Or.inr ⟨e, List.mem_append_right _ (List.mem_cons_of_mem _ he), hname, hplace⟩

/-- A source takes a free name and keeps it. -/
theorem get?_of_mem (h : options.Emits registry ds state sources final) {d : Dependency}
    (hd : d ∈ sources) :
    Keyed.get? d.typeName state.seen = none ∧
      Keyed.get? d.typeName final.seen = some d.site.place := by
  induction h with
  | done => cases hd
  | again _ _ ih => exact ih hd
  | clash _ _ _ ih => exact ih hd
  | @fresh e _ _ _ _ _ _ hfree hinner hrest ihinner ihrest =>
    rcases List.mem_append.mp hd with hin | hlater
    · obtain ⟨hnone, hsome⟩ := ihinner hin
      have hne : d.typeName ≠ e.typeName := by
        intro heq
        rw [heq, get?_begin_self] at hnone
        cases hnone
      rw [get?_begin_of_ne hne] at hnone
      exact ⟨hnone, hrest.get?_of_get? hsome⟩
    · rcases List.mem_cons.mp hlater with rfl | hlater
      · exact ⟨hfree, hrest.get?_of_get? (hinner.get?_of_get? get?_begin_self)⟩
      · obtain ⟨hnone, hsome⟩ := ihrest hlater
        have hmiddle := hinner.get?_eq_none hnone
        refine ⟨?_, hsome⟩
        by_cases hname : d.typeName = e.typeName
        · rw [hname]
          exact hfree
        · rw [get?_begin_of_ne hname] at hmiddle
          exact hmiddle

theorem definitions_eq (h : options.Emits registry ds state sources final) :
    final.definitions =
      state.definitions ++ sources.map fun d => (Definition.side d).render options registry := by
  induction h with
  | done => exact (List.append_nil _).symm
  | again _ _ ih => exact ih
  | clash _ _ _ ih => exact ih
  | fresh _ _ _ ihinner ihrest =>
    rw [ihrest]
    simp only [Emission.define, ihinner, begin, Emission.claim, Emission.report, List.map_append,
      List.map_cons, List.append_assoc, List.singleton_append]

/-- What holds of the dependencies, and of all that a definition needs if it holds of
    its own, holds of all sources. -/
theorem forall_sources {P : Dependency → Prop}
    (hneeds : ∀ d, P d → ∀ e ∈ (Definition.side d).needs options registry, P e)
    (h : options.Emits registry ds state sources final) (hds : ∀ d ∈ ds, P d) :
    ∀ source ∈ sources, P source := by
  induction h with
  | done => exact fun _ hsource => (List.not_mem_nil hsource).elim
  | again _ _ ih => exact ih fun e he => hds e (List.mem_cons_of_mem _ he)
  | clash _ _ _ ih => exact ih fun e he => hds e (List.mem_cons_of_mem _ he)
  | @fresh d _ _ _ _ _ _ _ _ _ ihinner ihrest =>
    have hd := hds d List.mem_cons_self
    have hinner := ihinner (hneeds d hd)
    have hlater := ihrest fun e he => hds e (List.mem_cons_of_mem _ he)
    intro source hsource
    rcases List.mem_append.mp hsource with hin | hsource
    · exact hinner source hin
    · rcases List.mem_cons.mp hsource with rfl | hsource
      · exact hd
      · exact hlater source hsource

theorem mem_notices (h : options.Emits registry ds state sources final) {notice : Notice}
    (hnotice : notice ∈ state.notices) : notice ∈ final.notices := by
  induction h with
  | done => exact hnotice
  | again _ _ ih => exact ih hnotice
  | clash _ _ _ ih => exact ih (List.mem_append_left _ hnotice)
  | fresh _ _ _ ihinner ihrest => exact ihrest (ihinner (List.mem_append_left _ hnotice))

theorem nodup_names (h : options.Emits registry ds state sources final) :
    (sources.map (·.typeName)).Nodup := by
  induction h with
  | done => exact List.nodup_nil
  | again _ _ ih => exact ih
  | clash _ _ _ ih => exact ih
  | @fresh d _ inner later _ middle _ _ hinner hrest ihinner ihrest =>
    have hself : Keyed.get? d.typeName middle.seen = some d.site.place :=
      hinner.get?_of_get? get?_begin_self
    have htaken : ∀ name, name ∈ inner.map (·.typeName) ∨ name = d.typeName →
        name ∉ later.map (·.typeName) := by
      intro name hname hmem
      obtain ⟨e, he, rfl⟩ := List.mem_map.mp hmem
      have hnone : Keyed.get? e.typeName middle.seen = none := (hrest.get?_of_mem he).1
      rcases hname with hname | hname
      · obtain ⟨other, hother, heq⟩ := List.mem_map.mp hname
        have hsome := (hinner.get?_of_mem hother).2
        rw [heq, hnone] at hsome
        cases hsome
      · rw [hname, hself] at hnone
        cases hnone
    have hnew : d.typeName ∉ inner.map (·.typeName) := by
      intro hmem
      obtain ⟨other, hother, heq⟩ := List.mem_map.mp hmem
      have hnone := (hinner.get?_of_mem hother).1
      rw [heq, get?_begin_self] at hnone
      cases hnone
    rw [List.map_append, List.map_cons, List.nodup_append]
    refine ⟨ihinner, List.nodup_cons.mpr ⟨htaken _ (Or.inr rfl), ihrest⟩, ?_⟩
    intro name hname other hother heq
    subst heq
    rcases List.mem_cons.mp hother with rfl | hlater
    · exact hnew hname
    · exact htaken name (Or.inl hname) hlater

end Emits

/-! ### Every dependency is seen through -/

/-- The name of the dependency is taken: by its own schema, or a warning says
    that it is not. -/
def SeenThrough (state : Emission) (d : Dependency) : Prop :=
  ∃ place, Keyed.get? d.typeName state.seen = some place ∧
    (place = d.site.place ∨ .nameTaken d.typeName d.field d.parentName ∈ state.notices)

theorem SeenThrough.define {state : Emission} {d : Dependency} (hseen : SeenThrough state d)
    (rendered : Rendered) : SeenThrough (state.define rendered) d := hseen

theorem SeenThrough.mono {ds sources : List Dependency} {state final : Emission} {d : Dependency}
    (hseen : SeenThrough state d) (h : options.Emits registry ds state sources final) :
    SeenThrough final d := by
  obtain ⟨place, htaken, hwarned⟩ := hseen
  exact ⟨place, h.get?_of_get? htaken, hwarned.imp_right h.mem_notices⟩

namespace Emits

variable {ds sources : List Dependency} {state final : Emission}

/-- Every dependency that was asked for is seen through. -/
theorem seenThrough (h : options.Emits registry ds state sources final) {d : Dependency}
    (hd : d ∈ ds) : SeenThrough final d := by
  induction h with
  | done => cases hd
  | @again e _ _ _ _ hseen hrest ih =>
    rcases List.mem_cons.mp hd with rfl | hd
    · exact ⟨_, hrest.get?_of_get? hseen, Or.inl rfl⟩
    · exact ih hd
  | clash hseen _ hrest ih =>
    rcases List.mem_cons.mp hd with rfl | hd
    · refine ⟨_, hrest.get?_of_get? hseen, Or.inr (hrest.mem_notices ?_)⟩
      exact List.mem_append_right _ List.mem_cons_self
    · exact ih hd
  | fresh _ hinner hrest _ ihrest =>
    rcases List.mem_cons.mp hd with rfl | hd
    · have hself := hinner.get?_of_get? get?_begin_self
      exact ⟨_, hrest.get?_of_get? hself, Or.inl rfl⟩
    · exact ihrest hd

theorem seenThrough_needs (h : options.Emits registry ds state sources final)
    {source d : Dependency} (hsource : source ∈ sources)
    (hd : d ∈ (Definition.side source).needs options registry) : SeenThrough final d := by
  induction h with
  | done => cases hsource
  | again _ _ ih => exact ih hsource
  | clash _ _ _ ih => exact ih hsource
  | @fresh e _ _ _ _ middle _ _ hinner hrest ihinner ihrest =>
    rcases List.mem_append.mp hsource with hin | hlater
    · exact ((ihinner hin).define _).mono hrest
    · rcases List.mem_cons.mp hlater with rfl | hlater
      · exact ((hinner.seenThrough hd).define _).mono hrest
      · exact ihrest hlater

end Emits

end Options

end Typewright
