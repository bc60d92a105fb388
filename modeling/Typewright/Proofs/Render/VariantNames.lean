/-
  Typewright/Proofs/Render/VariantNames.lean
  ==========================================
  **Names of variants** — when no two variants of an enumeration have one name.

  Every member has a candidate for its name.  One that is taken gets its place
  appended, but the name that comes out is not looked at again: it may be that of an
  earlier variant.  So the names differ just if no candidate that is taken becomes a
  name that is taken as well (`nodup_variantNames_iff`).  That takes a candidate which
  is another one followed by digits.
-/
import Mathlib.Data.List.Basic
import Typewright.Proofs.Json.NumberTexts
import Typewright.Proofs.Render.Defaults

namespace Typewright

/-! ### Names that are given -/

/-- The name that a candidate gets, given those of the variants before it. -/
def nameAfter (given : List String) (candidate : String) : String :=
  if candidate ∈ given then candidate ++ toString given.length else candidate

/-- The names that candidates get, in order. -/
def givenNames (candidates : List String) : List String :=
  candidates.foldl (fun given candidate => given ++ [nameAfter given candidate]) []

theorem givenNames_concat (candidates : List String) (candidate : String) :
    givenNames (candidates ++ [candidate]) =
      givenNames candidates ++ [nameAfter (givenNames candidates) candidate] := by
  unfold givenNames
  rw [List.foldl_append]
  rfl

theorem length_givenNames (candidates : List String) :
    (givenNames candidates).length = candidates.length := by
  induction candidates using List.reverseRecOn with
  | nil => rfl
  | append_singleton before candidate ih =>
    rw [givenNames_concat, List.length_append, List.length_append, ih]
    rfl

/-- To be renamed is to be given a name: what counts is which names were seen. -/
theorem Variant.names_renamed (variants : List Variant) {given seen : List String}
    (hseen : ∀ name, name ∈ seen ↔ name ∈ given) :
    given ++ (Variant.renamed given.length seen variants).map (·.name) =
      (variants.map (·.name)).foldl (fun given candidate => given ++ [nameAfter given candidate])
        given := by
  induction variants generalizing given seen with
  | nil => simp [Variant.renamed]
  | cons variant rest ih =>
    have hname : (if variant.name ∈ seen then variant.name ++ toString given.length
        else variant.name) = nameAfter given variant.name := by
      unfold nameAfter
      simp only [hseen]
    have hnext : ∀ name, name ∈ nameAfter given variant.name :: seen ↔
        name ∈ given ++ [nameAfter given variant.name] := by
      intro name
      rw [List.mem_cons, List.mem_append, List.mem_singleton, hseen, or_comm]
    have hrest := ih hnext
    rw [List.length_append, List.length_singleton, List.append_assoc,
      List.singleton_append] at hrest
    rw [List.map_cons, List.foldl_cons, ← hrest, Variant.renamed]
    simp only [hname, List.map_cons]

/-! ### Names that clash -/

/-- A candidate that is taken becomes a name that is taken as well. -/
def Clashes (candidates : List String) : Prop :=
  ∃ before candidate after, candidates = before ++ candidate :: after ∧
    candidate ∈ givenNames before ∧
    candidate ++ toString before.length ∈ givenNames before

theorem nameAfter_mem_iff {before : List String} {candidate : String} :
    nameAfter (givenNames before) candidate ∈ givenNames before ↔
      candidate ∈ givenNames before ∧
        candidate ++ toString before.length ∈ givenNames before := by
  unfold nameAfter
  rw [length_givenNames]
  by_cases htaken : candidate ∈ givenNames before
  · rw [if_pos htaken]
    exact (and_iff_right htaken).symm
  · rw [if_neg htaken]
    exact ⟨fun h => absurd h htaken, fun h => h.1⟩

/-- With one candidate more, names clash if they did or if its own does. -/
theorem clashes_concat {before : List String} {candidate : String} :
    Clashes (before ++ [candidate]) ↔
      Clashes before ∨ nameAfter (givenNames before) candidate ∈ givenNames before := by
  constructor
  · rintro ⟨first, other, after, hsplit, hclash⟩
    rcases List.eq_nil_or_concat after with rfl | ⟨init, last, rfl⟩
    · obtain ⟨rfl, hlast⟩ := List.append_inj' hsplit rfl
      obtain rfl := List.singleton_inj.mp hlast
      exact Or.inr (nameAfter_mem_iff.mpr hclash)
    · rw [List.concat_eq_append, ← List.cons_append, ← List.append_assoc] at hsplit
      obtain ⟨rfl, -⟩ := List.append_inj' hsplit rfl
      exact Or.inl ⟨first, other, init, rfl, hclash⟩
  · rintro (⟨first, other, after, rfl, hclash⟩ | hclash)
    · exact ⟨first, other, after ++ [candidate], by simp, hclash⟩
    · exact ⟨before, candidate, [], rfl, nameAfter_mem_iff.mp hclash⟩

/-- Given names are distinct just if they do not clash. -/
theorem nodup_givenNames_iff {candidates : List String} :
    (givenNames candidates).Nodup ↔ ¬ Clashes candidates := by
  induction candidates using List.reverseRecOn with
  | nil => simp [givenNames, Clashes]
  | append_singleton before candidate ih =>
    rw [givenNames_concat, clashes_concat, not_or, ← ih, List.nodup_append]
    constructor
    · rintro ⟨hbefore, -, hnew⟩
      exact ⟨hbefore, fun hmem => hnew _ hmem _ List.mem_cons_self rfl⟩
    · rintro ⟨hbefore, hnew⟩
      refine ⟨hbefore, by simp, ?_⟩
      rintro name hname other hother rfl
      obtain rfl := List.mem_singleton.mp hother
      exact hnew hname

/-! ### Candidates with digits -/

/-- The text is the other one followed by digits. -/
def ExtendsByDigits (text other : String) : Prop :=
  ∃ digits : List Char, digits ≠ [] ∧ (∀ c ∈ digits, c.isDigit) ∧
    text.toList = other.toList ++ digits

/-- What is left of a number that ends in another one is a part of its digits, and not
    nothing. -/
theorem ExtendsByDigits.of_append {text other : String} {digits : List Char} {m n : Nat}
    (hne : m ≠ n) (htext : text.toList = other.toList ++ digits)
    (hnumber : (toString m).toList = digits ++ (toString n).toList) :
    ExtendsByDigits text other := by
  refine ⟨digits, ?_, ?_, htext⟩
  · rintro rfl
    rw [List.nil_append, toList_toString, toList_toString] at hnumber
    have hvalue := congrArg (Nat.ofDigitChars 10 · 0) hnumber
    simp only [Nat.ofDigitChars_ten_toDigits] at hvalue
    exact hne hvalue
  · intro c hc
    apply isDigit_of_mem_toString (n := m)
    rw [hnumber]
    exact List.mem_append_left _ hc

/-- Of two texts that are made the same by two numbers, one extends the other. -/
theorem extendsByDigits_of_append_eq {text other : String} {m n : Nat} (hne : m ≠ n)
    (heq : text ++ toString m = other ++ toString n) :
    ExtendsByDigits text other ∨ ExtendsByDigits other text := by
  have hletters := congrArg String.toList heq
  rw [String.toList_append, String.toList_append] at hletters
  rcases List.append_eq_append_iff.mp hletters with ⟨digits, hother, hm⟩ | ⟨digits, htext, hn⟩
  · exact Or.inr (.of_append hne hother hm)
  · exact Or.inl (.of_append hne.symm htext hn)

/-- A given name is its candidate, or the candidate with its place. -/
theorem mem_givenNames {candidates : List String} {name : String}
    (hname : name ∈ givenNames candidates) :
    name ∈ candidates ∨ ∃ candidate ∈ candidates, ∃ n < candidates.length,
      name = candidate ++ toString n := by
  induction candidates using List.reverseRecOn with
  | nil => cases hname
  | append_singleton before candidate ih =>
    rw [givenNames_concat] at hname
    rcases List.mem_append.mp hname with hold | hnew
    · rcases ih hold with hmem | ⟨other, hother, n, hn, rfl⟩
      · exact Or.inl (List.mem_append_left _ hmem)
      · refine Or.inr ⟨other, List.mem_append_left _ hother, n, ?_, rfl⟩
        rw [List.length_append]
        omega
    · obtain rfl := List.mem_singleton.mp hnew
      have hlast : candidate ∈ before ++ [candidate] := by simp
      unfold nameAfter
      split
      · refine Or.inr ⟨candidate, hlast, before.length, by simp, ?_⟩
        rw [length_givenNames]
      · exact Or.inl hlast

/-- Where names clash, one candidate is another one followed by digits. -/
theorem Clashes.exists_extendsByDigits {candidates : List String} (h : Clashes candidates) :
    ∃ longer ∈ candidates, ∃ shorter ∈ candidates, ExtendsByDigits longer shorter := by
  obtain ⟨before, candidate, after, rfl, -, htaken⟩ := h
  have hown : candidate ∈ before ++ candidate :: after := by simp
  rcases mem_givenNames htaken with hmem | ⟨other, hother, n, hn, heq⟩
  · -- the earlier name is a candidate as it stands
    refine ⟨_, List.mem_append_left _ hmem, candidate, hown, (toString before.length).toList, ?_,
      fun c hc => isDigit_of_mem_toString hc, String.toList_append⟩
    rw [toList_toString]
    exact Nat.toDigits_ne_nil
  · -- it was renamed too, at another place
    have hearlier : other ∈ before ++ candidate :: after := List.mem_append_left _ hother
    rcases extendsByDigits_of_append_eq (by omega) heq with hlonger | hlonger
    · exact ⟨candidate, hown, other, hearlier, hlonger⟩
    · exact ⟨other, hearlier, candidate, hown, hlonger⟩

/-! ### Enumerations -/

/-- The candidates for the names of the variants, in order. -/
def Node.candidates (registry : Registry) (model : Node) : List String :=
  (EnumHooks.variants {} (.ofModel {} registry model) model.isUniformEnum).map (·.name)

namespace Options

theorem names_variants (registry : Registry) (model : Node) :
    (({} : Options).variants registry model).map (·.name) =
      givenNames (model.candidates registry) := by
  have hnone : ∀ name : String, name ∈ ([] : List String) ↔ name ∈ ([] : List String) :=
    fun _ => Iff.rfl
  exact Variant.names_renamed _ hnone

/-- **Names of variants.**  The variants that are written have the names that are given
    to their candidates.  These differ just if none clashes with an earlier one, and so
    they do where no candidate is another one followed by digits. -/
theorem nodup_variantNames_iff (registry : Registry) (model : Node) :
    let scope := Scope.ofModel {} registry model
    let variants := ({} : Options).variants registry model
    (({} : Options).renderEnum registry model).text =
      heading (scope.name ++ " enum of type: " ++ model.typeDescription) model.description
          (EnumHooks.traits variants)
        ++ braced ("pub enum " ++ scope.name) (variants.flatMap EnumHooks.variantLines) ∧
    variants.map (·.name) = givenNames (model.candidates registry) ∧
    ((variants.map (·.name)).Nodup ↔ ¬ Clashes (model.candidates registry)) ∧
    ((∀ longer ∈ model.candidates registry, ∀ shorter ∈ model.candidates registry,
        ¬ ExtendsByDigits longer shorter) →
      (variants.map (·.name)).Nodup) := by
  intro scope variants
  have hnames : variants.map (·.name) = givenNames (model.candidates registry) :=
    names_variants registry model
  refine ⟨EnumHooks.text_render scope, hnames, ?_, ?_⟩
  · rw [hnames]
    exact nodup_givenNames_iff
  · intro hdigits
    rw [hnames, nodup_givenNames_iff]
    intro hclashes
    obtain ⟨longer, hlonger, shorter, hshorter, hextends⟩ := hclashes.exists_extendsByDigits
    exact hdigits longer hlonger shorter hshorter hextends

/-- Three settings of a lamp, of which two are cased to one name. -/
def lamp : Node where
  id := some "Lamp"
  type := some (.single "string")
  literals := some [.string "on", .string "ON", .string "off"]

/-- The second setting gets its place appended. -/
theorem nodup_variantNames_iff_lamp :
    lamp.kind = .enumeration ∧ lamp.candidates {} = ["On", "On", "Off"] ∧
      (({} : Options).variants {} lamp).map (·.name) = ["On", "On1", "Off"] ∧
      ((({} : Options).variants {} lamp).map (·.name)).Nodup := by
  have hcandidates : lamp.candidates {} = ["On", "On", "Off"] := by decide +kernel
  obtain ⟨-, hnames, -, hnodup⟩ := nodup_variantNames_iff {} lamp
  refine ⟨by decide +kernel, hcandidates, ?_, hnodup ?_⟩
  · rw [hnames, hcandidates]
    decide
  · rw [hcandidates]
    rintro longer hlonger shorter hshorter ⟨digits, hne, hdigits, heq⟩
    have hletters : ∀ name ∈ ["On", "On", "Off"], ∀ c ∈ name.toList, c.isDigit = false := by
      simp [Char.isDigit]
    have hmem : digits.head hne ∈ longer.toList := by
      rw [heq]
      exact List.mem_append_right _ (List.head_mem hne)
    have hdigit := hdigits _ (List.head_mem hne)
    rw [hletters longer hlonger _ hmem] at hdigit
    cases hdigit

/-- A lamp with a setting that ends in a digit. -/
def dimmer : Node where
  id := some "Dimmer"
  type := some (.single "string")
  literals := some [.string "on2", .string "on", .string "ON"]

/-- The place that is appended to the third setting makes it the first. -/
theorem dimmer_repeats_name :
    dimmer.kind = .enumeration ∧
      (({} : Options).variants {} dimmer).map (·.name) = ["On2", "On", "On2"] ∧
      ¬ ((({} : Options).variants {} dimmer).map (·.name)).Nodup := by
  have hnames : (({} : Options).variants {} dimmer).map (·.name) = ["On2", "On", "On2"] := by
    decide +kernel
  refine ⟨by decide +kernel, hnames, ?_⟩
  rw [hnames]
  decide

end Options

end Typewright
