/-
  Typewright/Proofs/Types/Leaves.lean
  ===================================
  **Leaves of types** — the generated name that stands in a type, and where it
  comes from.

  A rule asks for the type of one other site at most, so a type has one leaf.  A
  leaf with a generated name is of one of four kinds: a reference to no model, a
  reference to a model with a definition, a schema that is defined on the side,
  and an object that carries the identifier of a model.
-/
import Typewright.Proofs.Schema.References
import Typewright.Proofs.Types.Rules

namespace Typewright

open Relation (ReflTransGen TransGen)

/-- The names of generated types in a type. -/
def TypeExpr.names : TypeExpr → List String
  | .scalar _ | .dynamic => []
  | .list inner | .map inner | .option inner | .boxed inner => inner.names
  | .model name | .sibling name => [name]

/-- The type of a site in the shape is that of the object, or a list or map of
    it. -/
inductive Registry.ObjectIn (registry : Registry) : Shape → Site → Site → Prop where
  | object (site : Site) : registry.ObjectIn .object site site
  | inlined {site target last : Site} {reference : String}
      (hreference : site.node.reference = some reference)
      (htarget : registry.target? reference = some target) (hinlined : target.node.isInlined)
      (hlast : registry.ObjectIn target.node.shape target last) :
      registry.ObjectIn .reference site last
  | item {site last : Site} {item : Node} (hitems : site.node.items = some (.single item))
      (hlast : registry.ObjectIn item.shape (site.part .item item) last) :
      registry.ObjectIn .array site last
  | value {site last : Site} (hlast : registry.ObjectIn site.node.shape site last) :
      registry.ObjectIn .mapValue site last

namespace Registry.ObjectIn

variable {registry : Registry} {site last : Site}

theorem eq_of_object (h : registry.ObjectIn .object site last) : last = site := by
  cases h
  rfl

/-- An object is seen through a reference if its target is inlined and has it. -/
theorem of_reference (h : registry.ObjectIn .reference site last) {reference : String}
    (hreference : site.node.reference = some reference) :
    ∃ target, registry.target? reference = some target ∧ target.node.isInlined ∧
      registry.ObjectIn target.node.shape target last := by
  cases h with
  | inlined hother htarget hinlined hlast =>
    rw [hreference, Option.some.injEq] at hother
    subst hother
    exact ⟨_, htarget, hinlined, hlast⟩

theorem of_array (h : registry.ObjectIn .array site last) :
    ∃ item, site.node.items = some (.single item) ∧
      registry.ObjectIn item.shape (site.part .item item) last := by
  cases h with
  | item hitems hlast => exact ⟨_, hitems, hlast⟩

theorem of_mapValue (h : registry.ObjectIn .mapValue site last) :
    registry.ObjectIn site.node.shape site last := by
  cases h with
  | value hlast => exact hlast

end Registry.ObjectIn

namespace Scope

def sideName (scope : Scope) (kind : DependencyKind) (field : String) : String :=
  match kind with
  | .tuple => scope.tupleName field
  | .record => scope.recordName field

variable {scope : Scope} {field : String} {shape : Shape} {site : Site} {type : Traced TypeExpr}

/-! ### Objects in fields -/

/-- An object with the identifier of a model has the name of that model. -/
theorem objectType_of_contains (scope : Scope) {site : Site} {id : String} (field : String)
    (hid : site.node.id = some id) (hcontains : scope.registry.contains id) :
    scope.objectType site field = byName (scope.typeNameIn site.node id) := by
  have hfilter := Option.filter_eq_some_iff.mpr ⟨hid, hcontains⟩
  unfold objectType
  rw [hfilter]

/-- Any other object is defined on the side, if it can be named. -/
theorem objectType_of_not_contains (scope : Scope) {site : Site} (field : String)
    (hnone : ∀ id, site.node.id = some id → ¬ scope.registry.contains id) :
    scope.objectType site field =
      if scope.recordName field = "" then unhandled field
      else .defining (scope.dependency .record field (scope.recordName field) site)
        (.boxed (.model (scope.recordName field))) := by
  have hfilter := Option.filter_eq_none_iff.mpr hnone
  unfold objectType
  rw [hfilter]

/-- The three types that an object may have. -/
theorem objectType_cases (scope : Scope) (site : Site) (field : String) :
    (∃ id, site.node.id = some id ∧ scope.registry.contains id ∧
      scope.objectType site field = byName (scope.typeNameIn site.node id)) ∨
    scope.objectType site field = unhandled field ∨
    scope.objectType site field =
      .defining (scope.dependency .record field (scope.recordName field) site)
        (.boxed (.model (scope.recordName field))) := by
  by_cases hmodel : ∃ id, site.node.id = some id ∧ scope.registry.contains id
  · obtain ⟨id, hid, hcontains⟩ := hmodel
    exact Or.inl ⟨id, hid, hcontains, scope.objectType_of_contains field hid hcontains⟩
  · rw [scope.objectType_of_not_contains field fun id hid h => hmodel ⟨id, hid, h⟩]
    split
    · exact Or.inr (Or.inl rfl)
    · exact Or.inr (Or.inr rfl)

/-! ### Names -/

/-- The names that are mentioned on the way are those in the type. -/
theorem Gives.names_eq (h : scope.Gives field shape site type) :
    type.names = type.value.names := by
  induction h with
  | scalar | union | unknown | dangling | named | tuple | untyped | unionValues => rfl
  | object site =>
    rcases objectType_cases scope site field with
      ⟨id, -, -, heq⟩ | heq | heq <;> rw [heq] <;> rfl
  | inlined _ _ _ _ ih => exact ih
  | list _ _ ih => rwa [Traced.names_map]
  | values _ _ _ ih => rwa [Traced.names_map]
  | anyValues => split <;> rfl

/-- No type takes a name from another one. -/
theorem Gives.nameTaken_not_mem (h : scope.Gives field shape site type)
    (name of owner : String) : .nameTaken name of owner ∉ type.notices := by
  induction h with
  | scalar => simp
  | union | unknown | untyped | unionValues => simp [polymorphic, unhandled, Traced.reporting]
  | dangling => simp [byName, Traced.reporting, Traced.mentioning]
  | named => simp [byName, Traced.mentioning]
  | tuple => simp [Traced.defining]
  | object site =>
    rcases objectType_cases scope site field with
      ⟨id, -, -, heq⟩ | heq | heq <;>
        simp [heq, byName, unhandled, Traced.reporting, Traced.mentioning, Traced.defining]
  | inlined _ _ _ _ ih => exact ih
  | list _ _ ih => simpa only [Traced.notices_map] using ih
  | values _ _ _ ih => simpa only [Traced.notices_map] using ih
  | anyValues => split <;> simp [unhandled, Traced.reporting]

/-! ### Schemas defined on the side -/

/-- A model in a field needs nothing on the side, lists aside. -/
theorem Gives.inlined_eq_nil (hwf : scope.registry.WellFormed)
    (h : scope.Gives field site.node.shape site type) {id : String}
    (hmodel : scope.registry.site? id = some site) (hend : site.node.reference = none)
    (hkind : site.node.kind ≠ .array) : type.inlined = [] := by
  have hreference : site.node.shape ≠ .reference := fun hshape => by
    obtain ⟨reference, hsome⟩ := Node.reference_of_shape hshape
    rw [hend] at hsome
    cases hsome
  have harray : site.node.shape ≠ .array := fun hshape =>
    hkind (Node.shape_eq_array_iff.mp hshape).2
  generalize hshape : site.node.shape = shape at h hreference harray
  cases h with
  | scalar | union | unknown => rfl
  | object =>
    rw [scope.objectType_of_contains field (hwf.id_of_site? hmodel)
      (Registry.contains_of_site? hmodel)]
    rfl
  | dangling | named | inlined => exact absurd rfl hreference
  | list | tuple | untyped => exact absurd rfl harray
  | values | anyValues | unionValues => exact absurd hshape (Node.shape_ne_mapValue _)

/-- A site of no known type names nothing and needs nothing on the side, nor do
    maps to it. -/
theorem Gives.nothing_of_unknown (h : scope.Gives field shape site type)
    (hshape : shape = site.node.shape ∨ shape = .mapValue) (hunknown : site.node.shape = .unknown) :
    type.names = [] ∧ type.inlined = [] := by
  rw [hunknown] at hshape
  cases h with
  | scalar | union | unknown | unionValues => exact ⟨rfl, rfl⟩
  | object | dangling | named | inlined | list | tuple | untyped =>
    exact absurd hshape (by simp)
  | values hother => exact absurd hunknown hother
  | anyValues =>
    rw [Traced.names_map, Traced.inlined_map]
    split <;> exact ⟨rfl, rfl⟩

/-- What is defined on the side for a field belongs to the scope, has the name of
    the field there, and stands below the site of the field. -/
theorem Gives.of_mem_inlined (hwf : scope.registry.WellFormed)
    (h : scope.Gives field shape site type) {d : Dependency} (hd : d ∈ type.inlined) :
    d = scope.dependency d.kind field (scope.sideName d.kind field) d.site ∧
      ReflTransGen scope.registry.Leads site d.site := by
  induction h with
  | scalar | union | unknown | dangling | named | untyped | unionValues => cases hd
  | object site =>
    rcases objectType_cases scope site field with ⟨id, -, -, heq⟩ | heq | heq
    · rw [heq] at hd
      cases hd
    · rw [heq] at hd
      cases hd
    · rw [heq] at hd
      obtain rfl := List.mem_singleton.mp hd
      exact ⟨rfl, .refl⟩
  | tuple =>
    obtain rfl := List.mem_singleton.mp hd
    exact ⟨rfl, .refl⟩
  | inlined hreference htarget hinlined htype ih =>
    obtain ⟨hend, hkind⟩ := Node.isInlined_iff.mp hinlined
    rcases hkind with hprimitive | hlist
    · obtain ⟨id, hmodel⟩ := Registry.exists_site?_of_target? htarget
      rw [htype.inlined_eq_nil hwf hmodel hend (by rw [hprimitive]; decide)] at hd
      cases hd
    · obtain ⟨heq, hpath⟩ := ih hd
      exact ⟨heq, .head (.list hreference htarget hend hlist) hpath⟩
  | list hitems _ ih =>
    rw [Traced.inlined_map] at hd
    obtain ⟨heq, hpath⟩ := ih hd
    exact ⟨heq, .head (.part (.item hitems)) hpath⟩
  | values _ _ _ ih =>
    rw [Traced.inlined_map] at hd
    exact ih hd
  | anyValues =>
    rw [Traced.inlined_map] at hd
    split at hd <;> cases hd

/-! ### Where a name comes from -/

/-- Where a name in the type of a site may come from. -/
inductive NameSource (scope : Scope) (shape : Shape) (site : Site) (inlined : List Dependency)
    (name : String) : Prop where
  /-- A schema that is defined on the side. -/
  | side {d : Dependency} (hd : d ∈ inlined) (hname : d.typeName = name)
  /-- A model with a definition. -/
  | model {id : String} {model : Site} (hmodel : scope.registry.site? id = some model)
      (hkind : model.node.kind.IsRendered)
      (hname : scope.rules.modelName scope.registry model.node = name)
  /-- An object with the identifier of a model. -/
  | object {object : Site} {id : String} (hin : scope.registry.ObjectIn shape site object)
      (hid : object.node.id = some id) (hcontains : scope.registry.contains id)
      (hname : scope.typeNameIn object.node id = name)

/-- A site whose type is made of that of another one has its objects. -/
theorem NameSource.lift {shape next : Shape} {site part : Site} {inlined : List Dependency}
    {name : String} (h : scope.NameSource next part inlined name)
    (hobjects : ∀ object, scope.registry.ObjectIn next part object →
      scope.registry.ObjectIn shape site object) : scope.NameSource shape site inlined name := by
  cases h with
  | side hd hname => exact .side hd hname
  | model hmodel hkind hname => exact .model hmodel hkind hname
  | object hin hid hcontains hname => exact .object (hobjects _ hin) hid hcontains hname

theorem Gives.nameSource (hwf : scope.registry.WellFormed) (hrefs : scope.registry.RefsResolve)
    (haliases : scope.registry.AliasesEnd) (h : scope.Gives field shape site type)
    (hroot : scope.registry.Rooted site) {name : String} (hname : name ∈ type.names) :
    scope.NameSource shape site type.inlined name := by
  induction h with
  | scalar | union | unknown | untyped | unionValues => cases hname
  | object site =>
    rcases objectType_cases scope site field with ⟨id, hid, hcontains, heq⟩ | heq | heq
    · rw [heq] at hname
      obtain rfl := List.mem_singleton.mp hname
      exact .object (.object site) hid hcontains rfl
    · rw [heq] at hname
      cases hname
    · rw [heq] at hname ⊢
      obtain rfl := List.mem_singleton.mp hname
      exact .side (List.mem_singleton.mpr rfl) rfl
  | dangling hreference hnone =>
    -- a reference that resolves has a target
    obtain ⟨target, htarget, -⟩ :=
      Registry.exists_target? hrefs haliases (hrefs _ _ hroot hreference)
    rw [hnone] at htarget
    cases htarget
  | named hreference htarget hdefined =>
    obtain ⟨other, hother, hend⟩ :=
      Registry.exists_target? hrefs haliases (hrefs _ _ hroot hreference)
    rw [htarget, Option.some.injEq] at hother
    subst hother
    obtain ⟨id, hmodel⟩ := Registry.exists_site?_of_target? htarget
    have hid := hwf.id_of_site? hmodel
    obtain rfl := List.mem_singleton.mp hname
    refine .model hmodel (Node.isRendered_kind_of_not_isInlined hend hdefined) ?_
    rw [hid]
    unfold NameRules.modelName
    rw [hid]
    rfl
  | inlined hreference htarget hinlined _ ih =>
    obtain ⟨id, hmodel⟩ := Registry.exists_site?_of_target? htarget
    apply (ih (Registry.rooted_of_site? hmodel) hname).lift
    intro object hin
    exact .inlined hreference htarget hinlined hin
  | list hitems _ ih =>
    rw [Traced.names_map] at hname
    rw [Traced.inlined_map]
    apply (ih (hroot.part (.item hitems)) hname).lift
    intro object hin
    exact .item hitems hin
  | tuple =>
    obtain rfl := List.mem_singleton.mp hname
    exact .side (List.mem_singleton.mpr rfl) rfl
  | values _ _ _ ih =>
    rw [Traced.names_map] at hname
    rw [Traced.inlined_map]
    apply (ih hroot hname).lift
    intro object hin
    exact .value hin
  | anyValues =>
    rw [Traced.names_map] at hname
    split at hname <;> cases hname

/-- The name of an object with the identifier of a model stands in every type made
    of it. -/
theorem Gives.names_of_objectIn (h : scope.Gives field shape site type) {object : Site}
    {id : String} (hin : scope.registry.ObjectIn shape site object)
    (hid : object.node.id = some id) (hcontains : scope.registry.contains id) :
    type.names = [scope.typeNameIn object.node id] := by
  induction h with
  | scalar | union | unknown => cases hin
  | object =>
    obtain rfl := hin.eq_of_object
    rw [scope.objectType_of_contains field hid hcontains]
    rfl
  | dangling hreference hnone =>
    obtain ⟨target, htarget, -⟩ := hin.of_reference hreference
    rw [hnone] at htarget
    cases htarget
  | named hreference htarget hdefined =>
    obtain ⟨target, hother, hinlined, -⟩ := hin.of_reference hreference
    obtain rfl := Option.some.inj (htarget.symm.trans hother)
    exact absurd hinlined hdefined
  | inlined hreference htarget _ _ ih =>
    obtain ⟨target, hother, -, hlast⟩ := hin.of_reference hreference
    obtain rfl := Option.some.inj (htarget.symm.trans hother)
    exact ih hlast
  | list hitems _ ih =>
    obtain ⟨item, hother, hlast⟩ := hin.of_array
    rw [hitems] at hother
    cases hother
    rw [Traced.names_map]
    exact ih hlast
  | tuple hitems | untyped hitems =>
    obtain ⟨item, hother, -⟩ := hin.of_array
    rw [hitems] at hother
    cases hother
  | values _ _ _ ih =>
    rw [Traced.names_map]
    exact ih hin.of_mapValue
  | anyValues hshape | unionValues hshape =>
    have hlast := hin.of_mapValue
    rw [hshape] at hlast
    cases hlast

end Scope

end Typewright
