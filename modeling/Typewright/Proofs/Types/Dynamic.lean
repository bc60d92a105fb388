/-
  Typewright/Proofs/Types/Dynamic.lean
  ====================================
  **Dynamic values** — which fields are left open, and that a warning says so.

  Several rules give up and leave a value dynamic, and each of them warns on its own.
  A rule asks for the type of one other site at most and adds nothing to what is
  reported there, so the warnings of a field are those of its last rule: one if this
  rule gave up, none otherwise (`Scope.Gives.announced`).  The one dynamic value that
  is nobody's failure is that of a map to anything at all.

  A reference to no model is reported too, but below the level of a warning; the field
  is not left open for it.
-/
import Typewright.Proofs.Types.Boxes

namespace Typewright

/-! ### Texts of types -/

/-- A colon right after an `n`.  The path of the dynamic value has one, and nothing else
    in the text of a type does. -/
def ColonAfterN (text : String) : Prop := ['n', ':'] <:+: text.toList

instance (text : String) : Decidable (ColonAfterN text) :=
  inferInstanceAs (Decidable (['n', ':'] <:+: text.toList))

theorem not_colonAfterN {text : String} (h : ':' ∉ text.toList) : ¬ ColonAfterN text :=
  fun hin => h (hin.subset (by simp))

/-- Two characters side by side stand in one of two texts, or across their border. -/
theorem pair_infix_append_iff {a b : Char} {first second : List Char} :
    [a, b] <:+: first ++ second ↔
      [a, b] <:+: first ∨ [a, b] <:+: second ∨
        (first.getLast? = some a ∧ second.head? = some b) := by
  induction first with
  | nil => simp
  | cons c rest ih =>
    rw [List.cons_append, List.infix_cons_iff, List.infix_cons_iff, ih]
    cases rest with
    | nil =>
      cases second with
      | nil => simp
      | cons d second =>
        simp only [List.cons_prefix_cons, List.head?_cons, List.getLast?_singleton,
          Option.some.injEq]
        grind
    | cons d rest => simp [List.cons_prefix_cons, or_assoc]

theorem infix_between (inner opening closing : String) :
    inner.toList <:+: (opening ++ inner ++ closing).toList := by
  rw [String.toList_append, String.toList_append]
  exact List.infix_append _ _ _

/-- What stands around an inner text does not count, if the opening has no such colon
    and does not end in an `n`, and the closing has no colon at all. -/
theorem ColonAfterN.inner {opening inner closing : String} (hopening : ¬ ColonAfterN opening)
    (hend : opening.toList.getLast? ≠ some 'n') (hclosing : ':' ∉ closing.toList)
    (h : ColonAfterN (opening ++ inner ++ closing)) : ColonAfterN inner := by
  unfold ColonAfterN at h
  rw [String.toList_append, String.toList_append, List.append_assoc, pair_infix_append_iff,
    pair_infix_append_iff] at h
  rcases h with h | (h | h | ⟨-, h⟩) | ⟨h, -⟩
  · exact absurd h hopening
  · exact h
  · exact absurd h (not_colonAfterN hclosing)
  · exact absurd (List.mem_of_head? h) hclosing
  · exact absurd h hend

namespace TypeExpr

/-- Whether some value in a type may be any JSON value. -/
def hasDynamic : TypeExpr → Bool
  | .dynamic => true
  | .list inner | .map inner | .option inner | .boxed inner => inner.hasDynamic
  | .scalar _ | .model _ | .sibling _ => false

/-- The path of the dynamic value stands in a text. -/
def StandsDynamic (text : String) : Prop := TypeExpr.dynamic.text.toList <:+: text.toList

theorem StandsDynamic.colonAfterN {text : String} (h : StandsDynamic text) : ColonAfterN text := by
  have hpath : ['n', ':'] <:+: TypeExpr.dynamic.text.toList :=
    ⟨"serde_jso".toList, ":Value".toList, rfl⟩
  exact hpath.trans h

theorem StandsDynamic.around {inner : String} (h : StandsDynamic inner) (opening closing : String) :
    StandsDynamic (opening ++ inner ++ closing) :=
  List.IsInfix.trans h (infix_between inner opening closing)

theorem hasDynamic_of_colonAfterN {type : TypeExpr}
    (hnames : ∀ name ∈ type.names, ':' ∉ name.toList) (h : ColonAfterN type.text) :
    type.hasDynamic := by
  induction type with
  | scalar type => cases type <;> exact absurd h (by decide +kernel)
  | dynamic => rfl
  | list inner ih =>
    change ColonAfterN ("Vec<" ++ inner.text ++ ">") at h
    exact ih hnames (h.inner (by decide +kernel) (by decide) (by decide))
  | map inner ih =>
    change ColonAfterN ("std::collections::HashMap<String, " ++ inner.text ++ ">") at h
    exact ih hnames (h.inner (by decide +kernel) (by decide) (by decide))
  | option inner ih =>
    change ColonAfterN ("Option<" ++ inner.text ++ ">") at h
    exact ih hnames (h.inner (by decide +kernel) (by decide) (by decide))
  | boxed inner ih =>
    change ColonAfterN ("Box<" ++ inner.text ++ ">") at h
    exact ih hnames (h.inner (by decide +kernel) (by decide) (by decide))
  | model name =>
    change ColonAfterN ("crate::" ++ name) at h
    rw [← String.append_empty (s := "crate::" ++ name)] at h
    have hname := h.inner (by decide +kernel) (by decide) (by decide)
    exact absurd hname (not_colonAfterN (hnames name List.mem_cons_self))
  | sibling name => exact absurd h (not_colonAfterN (hnames name List.mem_cons_self))

/-- The text of a type shows whether a value in it is dynamic, unless a name in it could
    be taken for a path. -/
theorem standsDynamic_text_iff {type : TypeExpr}
    (hnames : ∀ name ∈ type.names, ':' ∉ name.toList) :
    StandsDynamic type.text ↔ type.hasDynamic := by
  refine ⟨fun h => hasDynamic_of_colonAfterN hnames h.colonAfterN, fun h => ?_⟩
  clear hnames
  induction type with
  | scalar | model | sibling => cases h
  | dynamic => exact List.infix_refl _
  | list inner ih => exact (ih h).around "Vec<" ">"
  | map inner ih => exact (ih h).around "std::collections::HashMap<String, " ">"
  | option inner ih => exact (ih h).around "Option<" ">"
  | boxed inner ih => exact (ih h).around "Box<" ">"

theorem Holdable.forall_names {isName : String → Prop} {type : TypeExpr}
    (h : type.Holdable isName) :
    ∀ name ∈ type.names, isName name := by
  induction h with
  | scalar | dynamic => simp [names]
  | list _ ih | map _ ih => exact ih
  | model hname | sibling hname => simpa [names] using hname

end TypeExpr

/-! ### Warnings -/

theorem Notice.infix_message (field : String) :
    field.toList <:+: (Notice.unhandled field).message.toList ∧
      field.toList <:+: (Notice.polymorphic field).message.toList :=
  ⟨infix_between field _ _, infix_between field _ _⟩

namespace Traced

variable {α β : Type}

/-- What is reported at the level of a warning. -/
def warnings (traced : Traced α) : List Notice := traced.notices.filter (·.level = .warn)

@[simp] theorem warnings_map (f : α → β) (traced : Traced α) :
    (f <$> traced).warnings = traced.warnings := by
  unfold warnings
  rw [notices_map]

/-- There is one warning and it names the field, if a value in the type is dynamic; there
    is none otherwise. -/
structure Announced (field : String) (type : Traced TypeExpr) : Prop where
  warned : type.value.hasDynamic = true →
    ∃ notice, type.warnings = [notice] ∧ field.toList <:+: notice.message.toList
  silent : type.value.hasDynamic = false → type.warnings = []

theorem Announced.map {field : String} {type : Traced TypeExpr} (h : Announced field type)
    (f : TypeExpr → TypeExpr) (hdynamic : (f type.value).hasDynamic = type.value.hasDynamic) :
    Announced field (f <$> type) := by
  constructor
  · rw [value_map, hdynamic, warnings_map]
    exact h.warned
  · rw [value_map, hdynamic, warnings_map]
    exact h.silent

end Traced

/-- A map to anything at all is a map to values of no known shape. -/
theorem Node.shape_of_isUnconstrained {node : Node} (h : node.isUnconstrained) :
    node.shape = .unknown := by
  simp only [isUnconstrained, Bool.and_eq_true, Option.isNone_iff_eq_none] at h
  obtain ⟨⟨⟨⟨htype, hreference⟩, hproperties⟩, hitems⟩, hliterals⟩ := h
  simp [shape, kind, concreteType, concreteNames, members, htype, hreference, hproperties,
    hliterals]

namespace Scope

variable {scope : Scope} {field : String} {shape : Shape} {site : Site} {type : Traced TypeExpr}

theorem announced_unhandled (field : String) : (unhandled field).Announced field where
  warned _ := ⟨_, rfl, (Notice.infix_message field).1⟩
  silent h := by cases h

theorem announced_polymorphic (field : String) : (polymorphic field).Announced field where
  warned _ := ⟨_, rfl, (Notice.infix_message field).2⟩
  silent h := by cases h

/-- A type that is closed and reported nothing above the level of a note. -/
theorem announced_of_closed (hclosed : type.value.hasDynamic = false)
    (hsilent : type.warnings = []) :
    type.Announced field where
  warned h := by rw [hclosed] at h; cases h
  silent _ := hsilent

theorem announced_objectType (scope : Scope) (site : Site) (field : String) :
    (scope.objectType site field).Announced field := by
  rcases objectType_cases scope site field with ⟨id, -, -, heq⟩ | heq | heq
  · rw [heq]
    exact announced_of_closed rfl rfl
  · rw [heq]
    exact announced_unhandled field
  · rw [heq]
    exact announced_of_closed rfl rfl

/-- The warnings of a site are those of the rule that gave its type. -/
theorem Gives.announced (h : scope.Gives field shape site type) (hshape : shape ≠ .mapValue) :
    type.Announced field := by
  induction h with
  | scalar => exact announced_of_closed rfl rfl
  | union => exact announced_polymorphic field
  | unknown | untyped => exact announced_unhandled field
  | object site => exact announced_objectType scope site field
  | dangling | named | tuple => exact announced_of_closed rfl rfl
  | inlined _ _ _ _ ih => exact ih (Node.shape_ne_mapValue _)
  | list _ _ ih => exact (ih (Node.shape_ne_mapValue _)).map _ rfl
  | values | anyValues | unionValues => exact absurd rfl hshape

/-- The values of a map are announced like a field, unless they may be anything. -/
theorem Gives.announced_mapValue (h : scope.Gives field .mapValue site type) :
    if site.node.isUnconstrained then type.value = .map .dynamic ∧ type.warnings = []
    else type.Announced field := by
  cases h with
  | values hunknown _ htype =>
    have hconstrained : ¬ site.node.isUnconstrained :=
      fun hany => hunknown (Node.shape_of_isUnconstrained hany)
    rw [if_neg hconstrained]
    exact (htype.announced (Node.shape_ne_mapValue _)).map _ rfl
  | anyValues =>
    by_cases hany : site.node.isUnconstrained
    · rw [if_pos hany, if_pos hany]
      exact ⟨rfl, rfl⟩
    · rw [if_neg hany, if_neg hany]
      exact (announced_unhandled field).map _ rfl
  | unionValues hunion =>
    have hconstrained : ¬ site.node.isUnconstrained := by
      intro hany
      rw [Node.shape_of_isUnconstrained hany] at hunion
      cases hunion
    rw [if_neg hconstrained]
    exact (announced_polymorphic field).map _ rfl

theorem fieldType_eq (scope : Scope) (site : Site) (field : String) (required : Bool) :
    scope.fieldType site field required =
      (fun type => if required then type else .option type) <$>
        scope.mapType site.node.shape site field := rfl

/-- Under the default convention no name in a type can be taken for a path. -/
theorem colon_not_mem_names (hdefault : scope.rules.convention = {})
    (hname : Text.IsName scope.name) (shape : Shape) (site : Site) (field : String) :
    ∀ name ∈ (scope.mapType shape site field).value.names, ':' ∉ name.toList := by
  intro name hmem
  have hholds := (keptBySteps_holdsBoxes hdefault field).mapType shape site
  have hgenerated := hholds.holdable.forall_names name hmem
  exact Text.not_mem_of_isName (hgenerated.isName hname) (by decide)

end Scope

/-- **Dynamic values are announced.**  Where no list reaches itself, a field has one
    warning if a value in its type is dynamic, and this warning names the field; if none
    is, it has no warning.  So has a map, but for a map to anything at all, which is
    dynamic without a warning.  Under the default convention the text of the type shows
    whether a value in it is dynamic. -/
theorem dynamic_iff_warned (scope : Scope) (hlists : scope.registry.ListsEnd) (site : Site)
    (field : String) :
    (∀ required, (scope.fieldType site field required).Announced field) ∧
    (if site.node.isUnconstrained then
        (scope.mapType .mapValue site field).value = .map .dynamic ∧
          (scope.mapType .mapValue site field).warnings = []
      else (scope.mapType .mapValue site field).Announced field) ∧
    (scope.rules.convention = {} → Text.IsName scope.name →
      (∀ required, let type := (scope.fieldType site field required).value
        TypeExpr.StandsDynamic type.text ↔ type.hasDynamic) ∧
      let type := (scope.mapType .mapValue site field).value
      TypeExpr.StandsDynamic type.text ↔ type.hasDynamic) := by
  refine ⟨fun required => ?_, (Scope.gives_mapType_mapValue hlists field site).announced_mapValue,
    fun hdefault hname => ⟨fun required => ?_, ?_⟩⟩
  · rw [scope.fieldType_eq]
    apply ((Scope.gives_mapType hlists field site).announced (Node.shape_ne_mapValue _)).map
    cases required <;> rfl
  · have hcolon := Scope.colon_not_mem_names hdefault hname site.node.shape site field
    apply TypeExpr.standsDynamic_text_iff
    rw [scope.fieldType_eq]
    cases required <;> exact hcolon
  · exact TypeExpr.standsDynamic_text_iff
      (Scope.colon_not_mem_names hdefault hname .mapValue site field)

/-- Lists of texts or numbers, under two names. -/
def storage : Registry where
  entries := [("Shelves", { id := some "Shelves", reference := some "Boxes" }), ("Boxes", {
    id := some "Boxes"
    type := some (.single "array")
    items := some (.single { type := some (.several ["string", "number"]) }) })]

/-- Items of a list that are known by the second name, and values of a map that may be
    anything. -/
theorem dynamic_iff_warned_storage :
    let scope := Scope.ofModel {} storage { id := some "Store" }
    let shelves := Site.root (.loose 0) {
      type := some (.single "array"), items := some (.single (.refer "Shelves")) }
    let anything := Site.root (.loose 1) {}
    storage.ListsEnd ∧ Text.IsName scope.name ∧
      (scope.fieldType shelves "stock" false).value.text = "Option<Vec<Vec<serde_json::Value>>>" ∧
      (∃ notice, (scope.fieldType shelves "stock" false).warnings = [notice] ∧
        "stock".toList <:+: notice.message.toList) ∧
      TypeExpr.StandsDynamic (scope.fieldType shelves "stock" false).value.text ∧
      (scope.mapType .mapValue anything "notes").value = .map .dynamic ∧
      (scope.mapType .mapValue anything "notes").warnings = [] := by
  intro scope shelves anything
  have hlists : storage.ListsEnd := by decide
  have hname : Text.IsName scope.name := by decide +kernel
  have hdynamic : (scope.fieldType shelves "stock" false).value.hasDynamic = true := by
    decide +kernel
  obtain ⟨hfields, -, htexts⟩ := dynamic_iff_warned scope hlists shelves "stock"
  obtain ⟨-, hmaps, -⟩ := dynamic_iff_warned scope hlists anything "notes"
  exact ⟨hlists, hname, by decide +kernel, (hfields false).warned hdynamic,
    ((htexts rfl hname).1 false).mpr hdynamic, hmaps⟩

end Typewright
