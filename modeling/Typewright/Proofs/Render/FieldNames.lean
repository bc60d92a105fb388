/-
  Typewright/Proofs/Render/FieldNames.lean
  ========================================
  **Names of fields** — when no two fields of a struct have one name, in the data or in
  the code.

  Declared properties have the names of the schema.  The names for the maps are made
  up: a name that is declared gets marks until it is free.  It is compared with the
  declared names only, and before it is cased.  So two patterns may get one name
  (`nodup_schemaNames_iff`), and a made-up name may be cased to what another one is
  cased to (`nodup_fieldNames_iff`).  The map for additional properties never meets
  one for a pattern: the words at the end of their names differ.
-/
import Typewright.Proofs.Naming.FieldForms
import Typewright.Proofs.Naming.FreeNames
import Typewright.Proofs.Render.WireNames

namespace Typewright

open Text (snakeCase spellOut)

/-- A text does not end in both of two endings if neither of them ends in the other. -/
theorem not_suffix_of_suffix {ending other text : List Char} (h : ¬ ending <:+ other)
    (h' : ¬ other <:+ ending) (hending : ending <:+ text) : ¬ other <:+ text := by
  intro hother
  rcases List.suffix_or_suffix_of_suffix hending hother with hsuffix | hsuffix
  · exact h hsuffix
  · exact h' hsuffix

/-! ### Names in the schema -/

namespace Site

/-- The name of the map for additional properties, if there is one. -/
def additionalNames (site : Site) : List String :=
  site.additional?.toList.map fun _ => site.node.uniqueProperty "additionalProperties"

/-- The names of the maps for patterns. -/
def patternNames (site : Site) : List String :=
  (site.patterns.map (·.1)).map fun pattern =>
    site.node.uniqueProperty (pattern ++ "PatternProperties")

variable {site : Site}

theorem hasProperty_iff {name : String} :
    site.node.hasProperty name ↔ name ∈ site.properties.map (·.1) := by
  unfold Node.hasProperty properties
  rw [Keyed.contains_iff, List.map_map]
  rfl

theorem eq_of_mem_additionalNames {name : String} (hname : name ∈ site.additionalNames) :
    ∃ count, name = marked count "additionalProperties" := by
  obtain ⟨part, -, rfl⟩ := List.mem_map.mp hname
  obtain ⟨count, -, heq, -⟩ := site.node.frees_uniqueProperty "additionalProperties"
  exact ⟨count, heq⟩

theorem eq_of_mem_patternNames {name : String} (hname : name ∈ site.patternNames) :
    ∃ text, name = text ++ "PatternProperties" := by
  obtain ⟨pattern, -, rfl⟩ := List.mem_map.mp hname
  obtain ⟨count, -, heq, -⟩ := site.node.frees_uniqueProperty (pattern ++ "PatternProperties")
  exact ⟨marked count pattern, by rw [heq, marked_append]⟩

theorem ne_of_mem_additionalNames {name other : String} (hname : name ∈ site.additionalNames)
    (hother : other ∈ site.patternNames) : name ≠ other := by
  obtain ⟨count, rfl⟩ := eq_of_mem_additionalNames hname
  obtain ⟨text, rfl⟩ := eq_of_mem_patternNames hother
  rw [← String.empty_append (s := "additionalProperties"), marked_append]
  intro heq
  have hletters := congrArg String.toList heq
  rw [String.toList_append, String.toList_append] at hletters
  exact not_suffix_of_suffix (by decide) (by decide) ⟨_, hletters⟩ (List.suffix_append _ _)

/-- Made-up names are not declared. -/
theorem not_mem_of_made {name : String} (hname : name ∈ site.additionalNames ++ site.patternNames) :
    name ∉ site.properties.map (·.1) := by
  rw [← hasProperty_iff, Bool.not_eq_true]
  rcases List.mem_append.mp hname with hadditional | hpattern
  · obtain ⟨part, -, rfl⟩ := List.mem_map.mp hadditional
    exact site.node.hasProperty_uniqueProperty _
  · obtain ⟨pattern, -, rfl⟩ := List.mem_map.mp hpattern
    exact site.node.hasProperty_uniqueProperty _

theorem nodup_patternNames_iff :
    site.patternNames.Nodup ↔ (site.patterns.map (·.1)).Pairwise fun first second =>
      ¬ site.node.Tries (first ++ "PatternProperties") (second ++ "PatternProperties") ∧
      ¬ site.node.Tries (second ++ "PatternProperties") (first ++ "PatternProperties") := by
  unfold patternNames List.Nodup
  rw [List.pairwise_map]
  apply List.Pairwise.iff
  intro first second
  rw [Ne, Node.uniqueProperty_eq_iff, not_or]

/-- The search for the name of a pattern tries that of another one only if the other
    one starts with a mark. -/
theorem eq_or_prefix_of_tries {first second : String}
    (h : site.node.Tries (first ++ "PatternProperties") (second ++ "PatternProperties")) :
    first = second ∨ escapeMark.toList <+: second.toList := by
  obtain ⟨count, heq, -⟩ := h
  rw [marked_append, String.append_left_inj] at heq
  subst heq
  cases count with
  | zero => exact Or.inl rfl
  | succ count =>
    right
    rw [marked, String.toList_append]
    exact List.prefix_append _ _

/-- Patterns without marks at their start have maps with names of their own. -/
theorem nodup_patternNames (hpatterns : (site.patterns.map (·.1)).Nodup)
    (hmarks : ∀ pattern ∈ site.patterns.map (·.1), ¬ escapeMark.toList <+: pattern.toList) :
    site.patternNames.Nodup := by
  rw [nodup_patternNames_iff]
  apply hpatterns.imp_of_mem
  intro first second hfirst hsecond hne
  constructor
  · intro htries
    exact (eq_or_prefix_of_tries htries).elim hne (hmarks second hsecond)
  · intro htries
    exact (eq_or_prefix_of_tries htries).elim (Ne.symm hne) (hmarks first hfirst)

theorem pairwise_additionalNames (R : String → String → Prop) : site.additionalNames.Pairwise R := by
  unfold additionalNames
  cases site.additional? <;> simp

end Site

namespace Scope

variable (scope : Scope)

theorem names_slots (site : Site) :
    (scope.slots site).map (·.name) =
      site.properties.map (·.1) ++ (site.additionalNames ++ site.patternNames) := by
  simp only [slots, Site.additionalNames, Site.patternNames, List.map_append, List.map_map,
    Function.comp_def, List.append_assoc]

theorem exists_slot_of_mem_fields {site : Site} {field : Field}
    (hfield : field ∈ (StructHooks.fields {} scope site).value) :
    ∃ slot ∈ scope.slots site, field.schemaName = slot.name ∧ field.tag = slot.tag ∧
      field.required = slot.required ∧ field.type = (scope.slotType slot).value := by
  simp only [StructHooks.fields, Traced.all, List.map_map, List.mem_map] at hfield
  obtain ⟨slot, hslot, rfl⟩ := hfield
  exact ⟨slot, hslot, rfl, rfl, rfl, rfl⟩

/-- Names in the schema differ if those that are declared do, and those for patterns. -/
theorem nodup_names_slots_iff (site : Site) :
    ((scope.slots site).map (·.name)).Nodup ↔
      (site.properties.map (·.1)).Nodup ∧ site.patternNames.Nodup := by
  rw [scope.names_slots, List.nodup_append, List.nodup_append]
  constructor
  · rintro ⟨hdeclared, ⟨-, hpatterns, -⟩, -⟩
    exact ⟨hdeclared, hpatterns⟩
  · rintro ⟨hdeclared, hpatterns⟩
    refine ⟨hdeclared, ⟨site.pairwise_additionalNames _, hpatterns, ?_⟩, ?_⟩
    · intro name hname other hother
      exact Site.ne_of_mem_additionalNames hname hother
    · rintro name hname other hother rfl
      exact Site.not_mem_of_made hother hname

theorem schemaNames_fields (site : Site) :
    (StructHooks.fields {} scope site).value.map (·.schemaName) =
      (scope.slots site).map (·.name) := by
  simp only [StructHooks.fields, Traced.all, List.map_map]
  rfl

theorem fieldNames_fields (site : Site) :
    (StructHooks.fields {} scope site).value.map (·.name) =
      ((scope.slots site).map (·.name)).map scope.fieldName := by
  simp only [StructHooks.fields, Traced.all, List.map_map]
  rfl

/-- **Names in data.**  The attribute of a field is read as its name in the schema.
    Where no property is declared twice, these names differ just if the search for the
    name of one pattern never tries that of another one, and so they do where no
    pattern starts with a mark. -/
theorem nodup_schemaNames_iff (scope : Scope) (site : Site) :
    let fields := (StructHooks.fields {} scope site).value
    let declared := site.properties.map (·.1)
    let patterns := site.patterns.map (·.1)
    (∀ field ∈ fields, wireName? ("    " ++ field.tag) = some (some field.schemaName)) ∧
    ((fields.map (·.schemaName)).Nodup ↔ declared.Nodup ∧ patterns.Pairwise fun first second =>
      ¬ site.node.Tries (first ++ "PatternProperties") (second ++ "PatternProperties") ∧
      ¬ site.node.Tries (second ++ "PatternProperties") (first ++ "PatternProperties")) ∧
    (declared.Nodup → patterns.Nodup →
      (∀ pattern ∈ patterns, ¬ escapeMark.toList <+: pattern.toList) →
        (fields.map (·.schemaName)).Nodup) := by
  intro fields declared patterns
  have hiff : (fields.map (·.schemaName)).Nodup ↔ declared.Nodup ∧ site.patternNames.Nodup := by
    rw [scope.schemaNames_fields]
    exact scope.nodup_names_slots_iff site
  refine ⟨?_, ?_, ?_⟩
  · intro field hfield
    obtain ⟨slot, -, hname, htag, -⟩ := scope.exists_slot_of_mem_fields hfield
    rw [hname, htag]
    exact wireName?_slot slot
  · rw [hiff, Site.nodup_patternNames_iff]
  · intro hdeclared hpatterns hmarks
    exact hiff.mpr ⟨hdeclared, Site.nodup_patternNames hpatterns hmarks⟩

end Scope

/-- A shelf with a name to be escaped, one that is spelled out, and all kinds of maps. -/
def shelf : Site := .root (.loose 0) {
  id := some "Shelf"
  type := some (.single "object")
  properties := some [("type", {}), ("$", {}), ("additionalProperties", {}), ("İ", {})]
  additional := some (.allowed true)
  patterns := some [("^x", {}), ("2X", {})] }

/-- The shelf has a property with the name that is made up for other properties. -/
theorem Scope.nodup_schemaNames_iff_shelf :
    let names := (StructHooks.fields {} (.ofModel {} {} shelf.node) shelf).value.map (·.schemaName)
    names = ["type", "$", "additionalProperties", "İ", "reserved_additionalProperties",
      "^xPatternProperties", "2XPatternProperties"] ∧ names.Nodup := by
  obtain ⟨-, -, hnodup⟩ := Scope.nodup_schemaNames_iff (.ofModel {} {} shelf.node) shelf
  have hdeclared : (shelf.properties.map (·.1)).Nodup := by decide
  have hpatterns : (shelf.patterns.map (·.1)).Nodup := by decide
  have hmarks : ∀ pattern ∈ shelf.patterns.map (·.1), ¬ escapeMark.toList <+: pattern.toList := by
    decide
  exact ⟨by decide +kernel, hnodup hdeclared hpatterns hmarks⟩

/-- A drawer whose patterns differ by a mark. -/
def drawer : Site := .root (.loose 0) {
  id := some "Drawer"
  type := some (.single "object")
  properties := some [("xPatternProperties", {})]
  patterns := some [("x", {}), ("reserved_x", {})] }

/-- The name that is made up for the first pattern gets the mark that the second one
    has. -/
theorem drawer_repeats_name :
    let names := (StructHooks.fields {} (.ofModel {} {} drawer.node) drawer).value.map (·.schemaName)
    drawer.node.kind = .object ∧
    names = ["xPatternProperties", "reserved_xPatternProperties", "reserved_xPatternProperties"] ∧
    ¬ names.Nodup := by
  have hnames : (StructHooks.fields {} (.ofModel {} {} drawer.node) drawer).value.map
      (·.schemaName) =
        ["xPatternProperties", "reserved_xPatternProperties", "reserved_xPatternProperties"] := by
    decide +kernel
  refine ⟨by decide, hnames, ?_⟩
  intro hnodup
  rw [hnames] at hnodup
  revert hnodup
  decide

/-! ### Names in the code -/

namespace Site

variable {site : Site}

theorem small_properties : Text.Small (Text.lowerWord "Properties".toList) := by decide

/-- Made-up names are cased to a form that ends in what they are made for. -/
theorem suffix_of_mem_additionalNames (isReserved : String → Bool) {name : String}
    (hname : name ∈ site.additionalNames) :
    "additional_properties".toList <:+ (identifier snakeCase isReserved name).toList := by
  obtain ⟨count, rfl⟩ := eq_of_mem_additionalNames hname
  have hsmall : Text.Small (Text.lowerWord "additional".toList) := by decide
  have hsplit : ∀ mode, Text.EndIn "additional".toList ["Properties".toList]
      (Text.splitRun mode "additionalProperties".toList) := by
    intro mode
    cases mode with
    | start | lower | upper => exact ⟨[], [], by decide⟩
  have hletters : (marked count "additionalProperties").toList =
      (marked count "").toList ++ "additionalProperties".toList := by
    rw [← String.toList_append, ← marked_append, String.empty_append]
  have hsuffix := suffix_identifier_append hsmall small_properties (by decide)
    (List.all_eq_true.mp (by decide)) hsplit isReserved hletters
  exact hsuffix

theorem suffix_of_mem_patternNames (isReserved : String → Bool) {name : String}
    (hname : name ∈ site.patternNames) :
    "pattern_properties".toList <:+ (identifier snakeCase isReserved name).toList := by
  obtain ⟨text, rfl⟩ := eq_of_mem_patternNames hname
  have hsmall : Text.Small (Text.lowerWord "Pattern".toList) := by decide
  have hsplit : ∀ mode, Text.EndIn "Pattern".toList ["Properties".toList]
      (Text.splitRun mode "PatternProperties".toList) := by
    intro mode
    cases mode with
    | start | lower => exact ⟨[], [], by decide⟩
    -- after a capital a word ends before the first letter
    | upper => exact ⟨[[]], [], by decide⟩
  have hsuffix := suffix_identifier_append hsmall small_properties (by decide)
    (List.all_eq_true.mp (by decide)) hsplit isReserved (String.toList_append (s := text) (t := "PatternProperties"))
  exact hsuffix

/-- The map for additional properties meets no map for a pattern. -/
theorem identifier_ne_of_made (isReserved : String → Bool) {name other : String}
    (hname : name ∈ site.additionalNames) (hother : other ∈ site.patternNames) :
    identifier snakeCase isReserved name ≠ identifier snakeCase isReserved other := by
  intro heq
  have hadditional := suffix_of_mem_additionalNames isReserved hname
  rw [heq] at hadditional
  exact not_suffix_of_suffix (by decide) (by decide) hadditional
    (suffix_of_mem_patternNames isReserved hother)

theorem ne_empty_of_made {name : String}
    (hname : name ∈ site.additionalNames ++ site.patternNames) : name ≠ "" := by
  rintro rfl
  rcases List.mem_append.mp hname with hadditional | hpattern
  · have hsuffix := suffix_of_mem_additionalNames isReservedWord hadditional
    revert hsuffix
    decide
  · have hsuffix := suffix_of_mem_patternNames isReservedWord hpattern
    revert hsuffix
    decide

end Site

/-- Names with forms of their own that stand do not meet. -/
theorem not_meet_of_stands {first second : String} (hfirst : Stands (snakeCase first))
    (hsecond : Stands (snakeCase second)) (hne : snakeCase first ≠ snakeCase second) :
    ¬ Meet first second := by
  unfold Meet
  rw [hfirst.fieldForm_eq, hsecond.fieldForm_eq]
  simp [hfirst, hsecond, hne]

theorem Meet.symm {first second : String} (h : Meet first second) : Meet second first := by
  rcases h with h | h | h | ⟨hfirst, hsecond, h⟩
  · exact Or.inl h.symm
  · exact Or.inr (Or.inr (Or.inl h))
  · exact Or.inr (Or.inl h)
  · exact Or.inr (Or.inr (Or.inr ⟨hsecond, hfirst, h.symm⟩))

/-- Declared names that are cased to different forms meet only where one of them has to
    be escaped or spelled out. -/
theorem pairwise_identifier_iff {declared : List String} (hnames : ∀ name ∈ declared, name ≠ "")
    (hdistinct : (declared.map snakeCase).Nodup) :
    (declared.Pairwise fun first second =>
        identifier snakeCase isReservedWord first ≠ identifier snakeCase isReservedWord second) ↔
      ∀ first ∈ declared, ¬ Stands (snakeCase first) → ∀ second ∈ declared, second ≠ first →
        ¬ Meet first second := by
  constructor
  · intro hpairs first hfirst _ second hsecond hne hmeet
    have hnodup : (declared.map (identifier snakeCase isReservedWord)).Nodup :=
      List.pairwise_map.mpr hpairs
    have heq := (identifier_eq_iff (hnames first hfirst) (hnames second hsecond)).mpr hmeet
    exact hne (List.inj_on_of_nodup_map hnodup hfirst hsecond heq).symm
  · intro hescaped
    refine (List.Nodup.of_map _ hdistinct).pairwise_of_forall_ne ?_
    intro first hfirst second hsecond hne heq
    have hmeet := (identifier_eq_iff (hnames first hfirst) (hnames second hsecond)).mp heq
    by_cases hstands : Stands (snakeCase first)
    · by_cases hstands' : Stands (snakeCase second)
      · refine not_meet_of_stands hstands hstands' ?_ hmeet
        exact fun hcased => hne (List.inj_on_of_nodup_map hdistinct hfirst hsecond hcased)
      · exact hescaped second hsecond hstands' first hfirst hne hmeet.symm
    · exact hescaped first hfirst hstands second hsecond hne.symm hmeet

/-- **Names in the code.**  Under the default rules, where the declared names are not
    empty and no two of them are cased to one form, no two fields have one name just if
    a declared name that has to be escaped or spelled out meets no other one, none
    meets a name that is made up for a map, and no two of those for patterns meet. -/
theorem nodup_fieldNames_iff (scope : Scope) (site : Site) (hrules : scope.rules = {})
    (hnames : ∀ name ∈ site.properties.map (·.1), name ≠ "")
    (hdistinct : ((site.properties.map (·.1)).map snakeCase).Nodup) :
    let declared := site.properties.map (·.1)
    ((StructHooks.fields {} scope site).value.map (·.name)).Nodup ↔
      (∀ first ∈ declared, ¬ Stands (snakeCase first) → ∀ second ∈ declared, second ≠ first →
        ¬ Meet first second) ∧
      (∀ first ∈ declared, ∀ second ∈ site.additionalNames ++ site.patternNames,
        ¬ Meet first second) ∧
      site.patternNames.Pairwise fun first second => ¬ Meet first second := by
  intro declared
  have hmade : ∀ name ∈ site.patternNames, name ≠ "" := fun name hname =>
    Site.ne_empty_of_made (List.mem_append_right _ hname)
  have hfields : (StructHooks.fields {} scope site).value.map (·.name) =
      (declared ++ (site.additionalNames ++ site.patternNames)).map
        (identifier snakeCase isReservedWord) := by
    rw [scope.fieldNames_fields, scope.names_slots]
    exact List.map_congr_left fun name _ => Scope.fieldName_default hrules name
  rw [hfields, List.Nodup, List.pairwise_map, List.pairwise_append, List.pairwise_append,
    pairwise_identifier_iff hnames hdistinct]
  have hpatterns : (site.patternNames.Pairwise fun first second =>
      identifier snakeCase isReservedWord first ≠ identifier snakeCase isReservedWord second) ↔
        site.patternNames.Pairwise fun first second => ¬ Meet first second := by
    apply List.Pairwise.iff_of_mem
    intro first second hfirst hsecond
    exact not_congr (identifier_eq_iff (hmade first hfirst) (hmade second hsecond))
  have hcross : (∀ first ∈ declared, ∀ second ∈ site.additionalNames ++ site.patternNames,
      identifier snakeCase isReservedWord first ≠ identifier snakeCase isReservedWord second) ↔
        ∀ first ∈ declared, ∀ second ∈ site.additionalNames ++ site.patternNames,
          ¬ Meet first second := by
    refine forall₂_congr fun first hfirst => forall₂_congr fun second hsecond => ?_
    exact not_congr
      (identifier_eq_iff (hnames first hfirst) (Site.ne_empty_of_made hsecond))
  rw [hpatterns, hcross]
  constructor
  · rintro ⟨hdeclared, ⟨-, hpattern, -⟩, hboth⟩
    exact ⟨hdeclared, hboth, hpattern⟩
  · rintro ⟨hdeclared, hboth, hpattern⟩
    refine ⟨hdeclared, ⟨site.pairwise_additionalNames _, hpattern, ?_⟩, hboth⟩
    intro name hname other hother
    exact Site.identifier_ne_of_made isReservedWord hname hother

/-- None of the names of the shelf meet. -/
theorem nodup_fieldNames_iff_shelf :
    let names := (StructHooks.fields {} (.ofModel {} {} shelf.node) shelf).value.map (·.name)
    (shelf.node.kind = .object ∧ (∀ name ∈ shelf.properties.map (·.1), name ≠ "") ∧
      ((shelf.properties.map (·.1)).map snakeCase).Nodup) ∧
    names = ["reserved_type", "dollar", "additional_properties", "i\u0307",
      "reserved_additional_properties", "x_pattern_properties", "reserved_2x_pattern_properties"] ∧
    names.Nodup := by
  have hnames : ∀ name ∈ shelf.properties.map (·.1), name ≠ "" := by decide
  have hdistinct : ((shelf.properties.map (·.1)).map snakeCase).Nodup := by decide +kernel
  refine ⟨⟨by decide, hnames, hdistinct⟩, by decide +kernel, ?_⟩
  refine (nodup_fieldNames_iff (.ofModel {} {} shelf.node) shelf rfl hnames hdistinct).mpr ?_
  decide +kernel

/-- A box for whatever is left, with a property that is named so. -/
def leftovers : Site := .root (.loose 0) {
  id := some "Leftovers"
  type := some (.single "object")
  properties := some [("additional_properties", {})]
  additional := some (.allowed true) }

/-- The map for additional properties is cased to the name of the property. -/
theorem leftovers_repeat_name :
    let names := (StructHooks.fields {} (.ofModel {} {} leftovers.node) leftovers).value.map (·.name)
    (leftovers.node.kind = .object ∧ (∀ name ∈ leftovers.properties.map (·.1), name ≠ "") ∧
      ((leftovers.properties.map (·.1)).map snakeCase).Nodup) ∧
    names = ["additional_properties", "additional_properties"] ∧ ¬ names.Nodup := by
  have hnames : (StructHooks.fields {} (.ofModel {} {} leftovers.node) leftovers).value.map
      (·.name) = ["additional_properties", "additional_properties"] := by decide +kernel
  refine ⟨by decide +kernel, hnames, ?_⟩
  intro hnodup
  rw [hnames] at hnodup
  revert hnodup
  decide

end Typewright
