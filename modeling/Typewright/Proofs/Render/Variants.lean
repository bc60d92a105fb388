/-
  Typewright/Proofs/Render/Variants.lean
  ======================================
  **Variants** — what the variants of an enumeration have in common, whatever their
  members are.

  Under the default convention the name of a variant is made of name characters only,
  and its payload is one of few types.  So a variant stays on its line.  To be renamed
  adds at most a number to its name, and changes nothing else.
-/
import Typewright.Proofs.Naming.Convention
import Typewright.Render.Enum

namespace Typewright

/-! ### Members -/

theorem Node.enumMembers_of_members {model : Node} (h : model.members ≠ []) :
    model.enumMembers = model.members.map .literal := by
  unfold enumMembers
  rw [if_neg]
  simpa using h

theorem Node.members_ne_nil_of_isUniformEnum {model : Node} (huniform : model.isUniformEnum) :
    model.members ≠ [] := by
  intro hnil
  unfold isUniformEnum at huniform
  rw [hnil] at huniform
  cases huniform

/-! ### Renamed variants -/

/-- To be renamed changes nothing but names, and adds at most a number to a name. -/
theorem Variant.renamed_map {α : Type} (variant : α → Variant) (values : List α) (index : Nat)
    (seen : List String) :
    ∃ names : List String, names.length = values.length ∧
      Variant.renamed index seen (values.map variant) =
        (values.zip names).map (fun part => { variant part.1 with name := part.2 }) ∧
      ∀ name ∈ names, ∃ value ∈ values,
        name = (variant value).name ∨ ∃ n : Nat, name = (variant value).name ++ toString n := by
  -- The names seen so far grow with every variant, so the claim is for any of them.
  induction values generalizing index seen with
  | nil => exact ⟨[], rfl, rfl, by simp⟩
  | cons value values ih =>
    rw [List.map_cons, Variant.renamed]
    simp only
    generalize hname : (if (variant value).name ∈ seen then
      (variant value).name ++ toString index else (variant value).name) = name
    obtain ⟨names, hlength, heq, hnames⟩ := ih (index + 1) (name :: seen)
    refine ⟨name :: names, by simp [hlength], by simp [heq], ?_⟩
    intro other hother
    rcases List.mem_cons.mp hother with rfl | hmem
    · refine ⟨value, List.mem_cons_self, ?_⟩
      rw [← hname]
      split
      · exact Or.inr ⟨index, rfl⟩
      · exact Or.inl rfl
    · obtain ⟨source, hsource, hcases⟩ := hnames other hmem
      exact ⟨source, List.mem_cons_of_mem value hsource, hcases⟩

/-- To be renamed keeps the place of a variant and all but its name. -/
theorem Variant.getElem?_renamed (variants : List Variant) (index place : Nat)
    (seen : List String) :
    ∃ name, (Variant.renamed index seen variants)[place]? =
      variants[place]?.map fun variant => { variant with name } := by
  obtain ⟨names, hlength, heq, -⟩ := renamed_map id variants index seen
  rw [List.map_id] at heq
  rw [heq, List.getElem?_map, List.zip_eq_zipWith, List.getElem?_zipWith]
  by_cases hplace : place < variants.length
  · rw [List.getElem?_eq_getElem hplace, List.getElem?_eq_getElem (hlength ▸ hplace)]
    exact ⟨_, rfl⟩
  · rw [List.getElem?_eq_none (Nat.le_of_not_lt hplace)]
    exact ⟨"", rfl⟩

/-- Names that are distinct and not taken stay. -/
theorem Variant.renamed_eq_self {variants : List Variant} {seen : List String}
    (hnodup : (variants.map (·.name)).Nodup) (hfree : ∀ variant ∈ variants, variant.name ∉ seen)
    (index : Nat) : Variant.renamed index seen variants = variants := by
  induction variants generalizing seen index with
  | nil => rfl
  | cons variant rest ih =>
    rw [List.map_cons, List.nodup_cons] at hnodup
    obtain ⟨hown, hothers⟩ := hnodup
    obtain ⟨hfirst, hrest⟩ := List.forall_mem_cons.mp hfree
    have hnext : ∀ other ∈ rest, other.name ∉ variant.name :: seen := by
      intro other hother hmem
      rcases List.mem_cons.mp hmem with heq | hseen
      · exact hown (heq ▸ List.mem_map_of_mem hother)
      · exact hrest other hother hseen
    rw [Variant.renamed]
    simp only [if_neg hfirst]
    rw [ih hothers hnext]

/-! ### Variants on one line -/

/-- A variant with a name of name characters, and a payload on one line. -/
structure Variant.Plain (variant : Variant) : Prop where
  name : Text.IsName variant.name
  payload : ∀ payload ∈ variant.payload, Text.OneLine payload

theorem Variant.Plain.oneLine_declaration {variant : Variant} (h : variant.Plain) :
    Text.OneLine variant.declaration := by
  have hname := Text.oneLine_of_isName h.name
  unfold Variant.declaration
  cases hpayload : variant.payload with
  | none => exact hname
  | some payload =>
    have hinner := h.payload payload (by rw [hpayload]; rfl)
    simp +decide [hname, hinner]

theorem Variant.plain_of_mem_renamed {variants : List Variant} (h : ∀ variant ∈ variants, variant.Plain)
    {index : Nat} {seen : List String} {variant : Variant}
    (hvariant : variant ∈ Variant.renamed index seen variants) : variant.Plain := by
  obtain ⟨names, -, heq, hnames⟩ := Variant.renamed_map id variants index seen
  rw [List.map_id] at heq
  rw [heq] at hvariant
  obtain ⟨⟨source, name⟩, hpart, rfl⟩ := List.mem_map.mp hvariant
  obtain ⟨hsource, hname⟩ := List.of_mem_zip hpart
  refine ⟨?_, (h source hsource).payload⟩
  obtain ⟨other, hother, hcases⟩ := hnames name hname
  rcases hcases with rfl | ⟨n, rfl⟩
  · exact (h other hother).name
  · exact Text.isName_append (h other hother).name (Text.isName_toString n)

/-! ### Members -/

theorem Variant.plain_of_payload {variant : Variant} {payload : String}
    (hpayload : variant.payload = some payload) (hname : Text.IsName variant.name)
    (hone : Text.OneLine payload) : variant.Plain := by
  refine ⟨hname, ?_⟩
  intro other hother
  rw [hpayload] at hother
  obtain rfl := Option.some.inj hother
  exact hone

/-- The types that payloads have. -/
theorem oneLine_payloads :
    (∀ type : Scalar, Text.OneLine type.text) ∧ Text.OneLine Variant.anyMap ∧
      Text.OneLine Variant.anyList ∧ Text.OneLine TypeExpr.dynamic.text := by
  refine ⟨?_, by decide, by decide, by decide⟩
  intro type
  cases type <;> decide

/-- The names of variants that say no more than the type of the payload. -/
theorem isName_typeNames :
    Text.IsName "HashMap" ∧ Text.IsName "Array" ∧ Text.IsName "F64" ∧ Text.IsName "Bool" ∧
      Text.IsName "Null" := by decide

theorem Variant.plain_ofType (index : Nat) (typeName : String) :
    (Variant.ofType index typeName).Plain := by
  obtain ⟨hscalar, hmap, hlist, hdynamic⟩ := oneLine_payloads
  obtain ⟨hmapName, hlistName, -⟩ := isName_typeNames
  have hcased := Text.isName_pascalCase typeName
  unfold Variant.ofType
  cases Shape.ofTypeName typeName with
  | scalar type => exact plain_of_payload rfl (Text.isName_pascalCase type.text) (hscalar type)
  | object => exact plain_of_payload rfl hmapName hmap
  | array => exact plain_of_payload rfl hlistName hlist
  | reference | mapValue | union | unknown => exact plain_of_payload rfl hcased hdynamic

namespace Scope

variable {scope : Scope} (hdefault : scope.rules.convention = {})
include hdefault

theorem isName_enumMember (literal : String) : Text.IsName (scope.enumMember literal) := by
  unfold enumMember
  rw [NameRules.enumMember_eq hdefault]
  exact Typewright.isName_enumMember _ _

theorem isName_variantName (source literal : String) :
    Text.IsName (scope.variantName (Text.pascalCase source) literal) := by
  unfold variantName
  split
  · exact Text.isName_pascalCase source
  · exact isName_enumMember hdefault literal

theorem isName_unitVariant (value : Json) : Text.IsName (scope.unitVariant value).name := by
  unfold unitVariant
  simp only
  split
  · exact isName_variantName hdefault _ _
  · exact isName_enumMember hdefault _

theorem plain_payloadVariant (index : Nat) (value : Json) :
    (scope.payloadVariant index value).Plain := by
  obtain ⟨hscalar, hmap, hlist, -⟩ := oneLine_payloads
  obtain ⟨hmapName, hlistName, hnumber, hflag, hnull⟩ := isName_typeNames
  unfold payloadVariant
  cases value with
  | string s =>
    refine Variant.plain_of_payload rfl ?_ (hscalar .string)
    dsimp only
    exact isName_variantName hdefault s s
  | number n => exact Variant.plain_of_payload rfl hnumber (hscalar .double)
  | bool b => exact Variant.plain_of_payload rfl hflag (hscalar .boolean)
  | object members => exact Variant.plain_of_payload rfl hmapName hmap
  | array items => exact Variant.plain_of_payload rfl hlistName hlist
  | null =>
    refine ⟨hnull, ?_⟩
    intro payload hpayload
    cases hpayload

theorem plain_memberVariant (slot : VariantSlot) : (scope.memberVariant slot).Plain := by
  unfold memberVariant
  cases slot.member with
  | literal value =>
    simp only
    split
    · refine ⟨isName_unitVariant hdefault value, ?_⟩
      intro payload hpayload
      cases hpayload
    · exact plain_payloadVariant hdefault slot.index value
  | type name => exact Variant.plain_ofType slot.index name

end Scope

end Typewright
