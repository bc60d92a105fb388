/-
  Typewright/Proofs/Schema/Building.lean
  ======================================
  **Registries as they are built** — every way to build a registry gives a
  well-formed one.

  There are five ways, and only three pieces of code behind them: nothing at all,
  models that are added one by one, and a document that is hoisted.  Models are
  added under their own identifiers, so a list of models gives a registry just if
  they all have one and no two the same; otherwise the first model that has none,
  or that of a model before it, is the one that is reported
  (`wellFormed_of_built`).

  An object of models is a list of models: the key of a member stands in for an
  identifier that is not there, and for nothing else.
-/
import Mathlib.Data.List.Nodup
import Mathlib.Data.Option.Basic
import Typewright.Proofs.Schema.Document
import Typewright.Proofs.Schema.Written

namespace Typewright

/-- The node as a model under a key: its own identifier, or else the key. -/
def Node.keyed (key : String) (node : Node) : Node := { node with id := some (node.id.getD key) }

theorem Node.keyed_eq (key : String) (node : Node) :
    node.keyed key = if node.id.isNone then { node with id := some key } else node := by
  obtain ⟨id, _⟩ := node
  cases id <;> rfl

namespace Registry

variable {registry result : Registry} {models before after : List Node} {model : Node}
  {error : LoadError}

/-! ### Lists of models -/

/-- Every model has an identifier, and no two have the same. -/
structure Identified (models : List Node) : Prop where
  named : ∀ model ∈ models, model.id ≠ none
  distinct : (models.map (·.id)).Nodup

/-- What is wrong with a model, given the models before it. -/
inductive Refuses (before : List Node) (model : Node) : LoadError → Prop where
  | unnamed (hid : model.id = none) :
    Refuses before model (.missingId ("models[" ++ toString before.length ++ "]"))
  | repeated {id : String} (hid : model.id = some id) (hknown : some id ∈ before.map (·.id)) :
    Refuses before model (.duplicate id)

theorem identified_nil : Identified [] := ⟨by simp, by simp⟩

/-- A list without faults goes on without faults just if the next model has none. -/
theorem identified_append_singleton (hbefore : Identified before) :
    Identified (before ++ [model]) ↔ ∀ error, ¬ Refuses before model error := by
  constructor
  · rintro ⟨hnamed, hdistinct⟩ error hrefuses
    cases hrefuses with
    | unnamed hid => exact hnamed model (by simp) hid
    | repeated hid hknown =>
      rw [List.map_append, List.map_singleton, hid, List.nodup_append] at hdistinct
      exact hdistinct.2.2 _ hknown _ List.mem_cons_self rfl
  · intro hfree
    have hid : model.id ≠ none := fun hid => hfree _ (.unnamed hid)
    obtain ⟨id, hid⟩ := Option.ne_none_iff_exists'.mp hid
    constructor
    · intro other hother
      rcases List.mem_append.mp hother with hold | hlast
      · exact hbefore.named other hold
      · rw [List.mem_singleton.mp hlast, hid]
        exact Option.some_ne_none id
    · rw [List.map_append, List.map_singleton, hid, List.nodup_append]
      refine ⟨hbefore.distinct, List.nodup_singleton _, ?_⟩
      rintro key hkey other hother rfl
      obtain rfl := List.mem_singleton.mp hother
      exact hfree _ (.repeated hid hkey)

theorem Identified.of_append (h : Identified (before ++ after)) : Identified before := by
  obtain ⟨hnamed, hdistinct⟩ := h
  rw [List.map_append] at hdistinct
  exact ⟨fun model hmodel => hnamed model (List.mem_append_left _ hmodel),
    (List.nodup_append.mp hdistinct).1⟩

/-! ### Models of a registry -/

/-- A well-formed registry is made of its models alone. -/
theorem WellFormed.map_id_models (hwf : registry.WellFormed) :
    registry.models.map (·.id) = registry.ids.map some := by
  unfold models ids
  rw [List.map_map, List.map_map]
  exact List.map_congr_left fun entry hentry => hwf.keyed entry hentry

theorem WellFormed.identified (hwf : registry.WellFormed) : Identified registry.models := by
  constructor
  · intro model hmodel
    obtain ⟨entry, hentry, rfl⟩ := List.mem_map.mp hmodel
    rw [hwf.keyed entry hentry]
    exact Option.some_ne_none _
  · rw [hwf.map_id_models]
    exact hwf.distinct.map (Option.some_injective _)

theorem WellFormed.contains_iff (hwf : registry.WellFormed) {id : String} :
    registry.contains id ↔ some id ∈ registry.models.map (·.id) := by
  rw [hwf.map_id_models, List.mem_map_of_injective (Option.some_injective _)]
  exact Keyed.contains_iff

theorem models_concat (registry : Registry) (id : String) (model : Node) :
    (⟨registry.entries ++ [(id, model)]⟩ : Registry).models = registry.models ++ [model] := by
  unfold models
  rw [List.map_append]
  rfl

theorem length_models (registry : Registry) : registry.models.length = registry.length :=
  List.length_map _

/-! ### Adding models -/

section

variable (hwf : registry.WellFormed)
include hwf

/-- One step with a fault: it is reported. -/
theorem addModels_cons_of_refuses (hrefuses : Refuses registry.models model error)
    (rest : List Node) :
    registry.addModels registry.length (model :: rest) = .error error := by
  unfold addModels
  cases hrefuses with
  | unnamed hid => rw [hid, length_models]
  | repeated hid hknown =>
    rw [hid]
    exact if_pos (hwf.contains_iff.mpr hknown)

/-- One step without a fault: the model is the last one now. -/
theorem addModels_cons_of_free (hfree : ∀ error, ¬ Refuses registry.models model error)
    (rest : List Node) :
    ∃ next : Registry, next.WellFormed ∧ next.models = registry.models ++ [model] ∧
      registry.addModels registry.length (model :: rest) = next.addModels next.length rest := by
  have hid : model.id ≠ none := fun hid => hfree _ (.unnamed hid)
  obtain ⟨id, hid⟩ := Option.ne_none_iff_exists'.mp hid
  have hnew : ¬ registry.contains id := fun hknown =>
    hfree _ (.repeated hid (hwf.contains_iff.mp hknown))
  refine ⟨⟨registry.entries ++ [(id, model)]⟩, hwf.addModel hid hnew,
    models_concat registry id model, ?_⟩
  rw [addModels, hid]
  simp only [if_neg hnew, length, List.length_append, List.length_singleton]

end

/-- A run without faults adds all models, in order. -/
theorem addModels_of_identified (hwf : registry.WellFormed)
    (hmodels : Identified (registry.models ++ models)) :
    ∃ result, registry.addModels registry.length models = .ok result ∧ result.WellFormed ∧
      result.models = registry.models ++ models := by
  induction models generalizing registry with
  | nil => exact ⟨registry, rfl, hwf, (List.append_nil _).symm⟩
  | cons model rest ih =>
    rw [List.append_cons] at hmodels
    have hfree := (identified_append_singleton hwf.identified).mp hmodels.of_append
    obtain ⟨next, hnext, hlast, hstep⟩ := addModels_cons_of_free hwf hfree rest
    rw [← hlast] at hmodels
    obtain ⟨result, hresult, hwfResult, heq⟩ := ih hnext hmodels
    refine ⟨result, hstep.trans hresult, hwfResult, ?_⟩
    rw [heq, hlast, List.append_assoc, List.singleton_append]

/-- A run ends at the first fault. -/
theorem addModels_of_refuses (hwf : registry.WellFormed)
    (hbefore : Identified (registry.models ++ before))
    (hrefuses : Refuses (registry.models ++ before) model error) (after : List Node) :
    registry.addModels registry.length (before ++ model :: after) = .error error := by
  induction before generalizing registry with
  | nil =>
    rw [List.append_nil] at hrefuses
    exact addModels_cons_of_refuses hwf hrefuses after
  | cons first before ih =>
    rw [List.append_cons] at hbefore hrefuses
    have hfree := (identified_append_singleton hwf.identified).mp hbefore.of_append
    obtain ⟨next, hnext, hlast, hstep⟩ :=
      addModels_cons_of_free hwf hfree (before ++ model :: after)
    rw [← hlast] at hbefore hrefuses
    exact hstep.trans (ih hnext hbefore hrefuses)

/-- A list of models has a first fault, or none. -/
theorem identified_or_refuses {known : List Node} (hknown : Identified known)
    (models : List Node) :
    Identified (known ++ models) ∨
      ∃ before model after error, models = before ++ model :: after ∧
        Identified (known ++ before) ∧ Refuses (known ++ before) model error := by
  induction models generalizing known with
  | nil => exact Or.inl (by rwa [List.append_nil])
  | cons model rest ih =>
    by_cases hfree : ∀ error, ¬ Refuses known model error
    · rw [List.append_cons]
      rcases ih ((identified_append_singleton hknown).mpr hfree) with hall | hfault
      · exact Or.inl hall
      · obtain ⟨before, fault, after, error, rfl, hbefore, hrefuses⟩ := hfault
        rw [List.append_assoc] at hbefore hrefuses
        exact Or.inr ⟨model :: before, fault, after, error, rfl, hbefore, hrefuses⟩
    · simp only [Classical.not_forall, Classical.not_not] at hfree
      obtain ⟨error, hrefuses⟩ := hfree
      refine Or.inr ⟨[], model, rest, error, rfl, ?_, ?_⟩
      · rwa [List.append_nil]
      · rwa [List.append_nil]

/-! ### Registries of models -/

theorem wellFormed_empty : ({} : Registry).WellFormed :=
  ⟨List.nodup_nil, fun _ hentry => (List.not_mem_nil hentry).elim⟩

theorem ofModels_of_identified (hmodels : Identified models) :
    ∃ result, ofModels models = .ok result ∧ result.WellFormed ∧ result.models = models :=
  addModels_of_identified wellFormed_empty hmodels

theorem ofModels_of_refuses (hbefore : Identified before) (hrefuses : Refuses before model error)
    (after : List Node) : ofModels (before ++ model :: after) = .error error :=
  addModels_of_refuses wellFormed_empty hbefore hrefuses after

/-- A registry of models is well-formed and lists them in order. -/
theorem of_ofModels (h : ofModels models = .ok registry) :
    Identified models ∧ registry.WellFormed ∧ registry.models = models := by
  rcases identified_or_refuses identified_nil models with hmodels | hfault
  · rw [List.nil_append] at hmodels
    obtain ⟨result, hresult, hwf, heq⟩ := ofModels_of_identified hmodels
    rw [h, Except.ok.injEq] at hresult
    subst hresult
    exact ⟨hmodels, hwf, heq⟩
  · obtain ⟨before, model, after, error, rfl, hbefore, hrefuses⟩ := hfault
    rw [List.nil_append] at hbefore hrefuses
    rw [ofModels_of_refuses hbefore hrefuses after] at h
    cases h

/-- A list of models is refused for the first fault in it. -/
theorem ofModels_eq_error_iff :
    ofModels models = .error error ↔
      ∃ before model after, models = before ++ model :: after ∧ Identified before ∧
        Refuses before model error := by
  constructor
  · intro h
    rcases identified_or_refuses identified_nil models with hmodels | hfault
    · rw [List.nil_append] at hmodels
      obtain ⟨result, hresult, -⟩ := ofModels_of_identified hmodels
      rw [h] at hresult
      cases hresult
    · obtain ⟨before, model, after, other, rfl, hbefore, hrefuses⟩ := hfault
      rw [List.nil_append] at hbefore hrefuses
      rw [ofModels_of_refuses hbefore hrefuses after, Except.error.injEq] at h
      subst h
      exact ⟨before, model, after, rfl, hbefore, hrefuses⟩
  · rintro ⟨before, model, after, rfl, hbefore, hrefuses⟩
    exact ofModels_of_refuses hbefore hrefuses after

/-! ### Objects of models -/

/-- Members that can all be read are models under their keys. -/
theorem readEntries_of_reads {members : List (String × Json)} {nodes : List Node}
    (hreads : members.map (fun member => Node.ofJson member.2) = nodes.map .ok) :
    readEntries members = .ok (List.zipWith Node.keyed (members.map (·.1)) nodes) := by
  induction members generalizing nodes with
  | nil => rfl
  | cons member rest ih =>
    obtain ⟨key, value⟩ := member
    obtain ⟨node, others, rfl, hnode, hothers⟩ := List.map_eq_cons_iff.mp hreads.symm
    have hrest := ih hothers.symm
    unfold readEntries
    simp only [← hnode, ← Node.keyed_eq, hrest]
    rfl

/-! ### All registries -/

/-- The registries that can be built. -/
inductive Built : Registry → Prop where
  | empty : Built {}
  | ofModels {models : List Node} {registry : Registry} (h : ofModels models = .ok registry) :
    Built registry
  | ofDocument {root : Node} {result : Hoisting} (h : ofDocument root = .ok result) :
    Built result.registry
  | read {text : String} {registry : Registry} (h : read text = .ok registry) : Built registry
  | readDocument {text : String} {result : Hoisting} (h : readDocument text = .ok result) :
    Built result.registry

theorem exists_ofModels_of_read {text : String} (h : read text = .ok registry) :
    ∃ models, ofModels models = .ok registry := by
  unfold read ofJson at h
  cases hvalue : Json.read text with
  | error fault =>
    rw [hvalue] at h
    cases h
  | ok value =>
    cases value with
    | object members =>
      simp only [hvalue] at h
      obtain ⟨models, -, hmodels⟩ := Node.exists_of_bind_eq_ok h
      exact ⟨models, hmodels⟩
    | null | bool _ | number _ | string _ | array _ =>
      rw [hvalue] at h
      cases h

theorem exists_ofDocument_of_readDocument {text : String} {result : Hoisting}
    (h : readDocument text = .ok result) : ∃ root, ofDocument root = .ok result := by
  unfold readDocument at h
  cases hroot : Node.read text with
  | error fault =>
    rw [hroot] at h
    cases h
  | ok root =>
    rw [hroot] at h
    exact ⟨root, h⟩

theorem Built.wellFormed (h : Built registry) : registry.WellFormed := by
  cases h with
  | empty => exact wellFormed_empty
  | ofModels h => exact (of_ofModels h).2.1
  | ofDocument h => exact wellFormed_ofDocument h
  | read h =>
    obtain ⟨models, hmodels⟩ := exists_ofModels_of_read h
    exact (of_ofModels hmodels).2.1
  | readDocument h =>
    obtain ⟨root, hroot⟩ := exists_ofDocument_of_readDocument h
    exact wellFormed_ofDocument hroot

/-- **Built registries are well-formed.**  A list of models gives a registry just if all
    have an identifier and no two the same, and then the models are listed as they are;
    otherwise the first fault is reported.  An object of models is the list of its
    members, with the key of a member where it has no identifier. -/
theorem wellFormed_of_built :
    (∀ registry, Built registry → registry.WellFormed) ∧
    (∀ models, (∃ registry, ofModels models = .ok registry) ↔ Identified models) ∧
    (∀ models registry, ofModels models = .ok registry → registry.models = models) ∧
    (∀ models error, ofModels models = .error error ↔
      ∃ before model after, models = before ++ model :: after ∧ Identified before ∧
        Refuses before model error) ∧
    (∀ text members nodes, Json.read text = .ok (.object members) →
      members.map (fun member => Node.ofJson member.2) = nodes.map .ok →
        read text = ofModels (List.zipWith Node.keyed (members.map (·.1)) nodes)) := by
  refine ⟨fun registry h => h.wellFormed, ?_, ?_, fun models error => ofModels_eq_error_iff, ?_⟩
  · intro models
    constructor
    · rintro ⟨registry, h⟩
      exact (of_ofModels h).1
    · intro hmodels
      obtain ⟨registry, h, -⟩ := ofModels_of_identified hmodels
      exact ⟨registry, h⟩
  · intro models registry h
    exact (of_ofModels h).2.2
  · intro text members nodes htext hreads
    unfold read ofJson
    simp only [htext, readEntries_of_reads hreads]
    rfl

/-- Two models of one identifier, since one has the key of the other for its own. -/
def borrowed : String := "\x7b\"House\":\x7b\"$id\":\"Home\"\x7d,\"Home\":\x7b\x7d\x7d"

/-- The texts in an object of two objects, the first one with a text and the second one
    empty. -/
def formTexts : Json → List String
  | .object [(first, .object [(key, .string text)]), (second, .object [])] =>
    [first, key, text, second]
  | _ => []

theorem read_borrowed :
    Json.read borrowed = .ok (.object [("House", .object [("$id", .string "Home")]),
      ("Home", .object [])]) := by
  -- Equality of values is not decided, but that of the texts in them is.
  have htexts : (Json.read borrowed).toOption.map formTexts =
      some ["House", "$id", "Home", "Home"] := by decide +kernel
  cases hvalue : Json.read borrowed with
  | error fault =>
    rw [hvalue] at htexts
    cases htexts
  | ok value =>
    rw [hvalue] at htexts
    have hform : formTexts value = ["House", "$id", "Home", "Home"] := Option.some.inj htexts
    unfold formTexts at hform
    split at hform
    · simp only [List.cons.injEq, and_true] at hform
      obtain ⟨rfl, rfl, rfl, rfl⟩ := hform
      rfl
    · cases hform

/-- The object has a fault, and either of its models is the registry of itself. -/
theorem wellFormed_of_built_borrowed :
    let house : Node := { id := some "Home" }
    Json.read borrowed = .ok (.object [("House", .object [("$id", .string "Home")]),
      ("Home", .object [])]) ∧
    read borrowed = .error (.duplicate "Home") ∧
    ∃ registry, ofModels [house] = .ok registry ∧ registry.models = [house] ∧
      registry.WellFormed := by
  intro house
  obtain ⟨hwf, haccepts, hmodels, hrefuses, hread⟩ := wellFormed_of_built
  have hnodes : [("House", Json.object [("$id", .string "Home")]), ("Home", .object [])].map
      (fun member => Node.ofJson member.2) = [house, {}].map .ok := by
    simp [house, Node.ofJson, Node.readMembers, Node.fill, Node.Draft.claim, Node.textOf?,
      Node.Key.ofText?, Node.Key.all, Node.Key.text, bind, Except.bind, pure, Except.pure]
  have hone : Identified [house] := ⟨by simp [house], by simp⟩
  refine ⟨read_borrowed, ?_, ?_⟩
  · rw [hread borrowed _ [house, {}] read_borrowed hnodes, hrefuses]
    exact ⟨[house], house, [], rfl, hone, .repeated rfl List.mem_cons_self⟩
  · obtain ⟨registry, h⟩ := (haccepts [house]).mpr hone
    exact ⟨registry, h, hmodels _ _ h, hwf registry (.ofModels h)⟩

end Registry

end Typewright
