/-
  Typewright/Proofs/Render/Attributes.lean
  ========================================
  **Attributes read back** — what a reader learns from the attribute lines of a text.

  A field may have another name in the code than in the data that it is read from, and
  an attribute on a line of its own says so.  The reader looks at the lines of a text,
  one after the other, and decodes the literals in the attributes among them.

  A definition has documentation lines, which are no attributes whatever they say, and
  a body made of items, which declare names.  Its other lines declare nothing if no
  attribute mark stands in them.
-/
import Mathlib.Data.List.Basic
import Typewright.Proofs.Text.Lines
import Typewright.Proofs.Text.Literal
import Typewright.Proofs.Text.Words
import Typewright.Render.Rendered

namespace Typewright

/-! ### Lines of a definition -/

/-- Above a definition stand the line of its summary, the lines of its description and
    those of the derived traits. -/
theorem lines_heading (summary : String) (description : Option String) (derive : String) :
    ∃ docs : List String, (∀ line ∈ docs, ∃ shown, line = "///" ++ shown) ∧
      ∀ rest, Text.lines (heading summary description derive ++ rest) =
        Text.lines ("/// " ++ summary) ++ (docs ++ (Text.lines derive ++ Text.lines rest)) := by
  obtain ⟨docs, hdocs, hlines⟩ := Text.exists_lines_docLines description
  refine ⟨docs, hdocs, fun rest => ?_⟩
  have hsplit : heading summary description derive ++ rest =
      "/// " ++ summary ++ "\n" ++ (Text.docLines description ++ (derive ++ "\n" ++ rest)) := by
    simp only [heading, String.append_assoc]
  rw [hsplit, Text.lines_append, hlines, Text.lines_append]

/-- A definition has the lines above it, that of its opening, and those of its items. -/
theorem lines_definition (summary : String) (description : Option String)
    (derive opening : String) (items : List String) (rest : String) :
    ∃ docs : List String, (∀ line ∈ docs, ∃ shown, line = "///" ++ shown) ∧
      Text.lines (heading summary description derive ++ braced opening items ++ rest) =
        Text.lines ("/// " ++ summary) ++ (docs ++ (Text.lines derive ++
          (Text.lines (opening ++ " \x7b") ++
            (items.flatMap Text.lines ++ Text.lines ("\x7d" ++ rest))))) := by
  obtain ⟨docs, hdocs, hlines⟩ := lines_heading summary description derive
  refine ⟨docs, hdocs, ?_⟩
  have hopen : " \x7b\n" = " \x7b" ++ "\n" := rfl
  have hbody : braced opening items ++ rest =
      opening ++ " \x7b" ++ "\n" ++
        (String.join (items.map (· ++ "\n")) ++ ("\x7d" ++ rest)) := by
    rw [braced, hopen]
    simp only [String.append_assoc]
  rw [String.append_assoc, hlines, hbody, Text.lines_append, Text.lines_join]

/-! ### A reader of attributes -/

/-- What stands before the name in the data. -/
def renameMark : String := "#[serde(rename = "

/-- Whether an attribute ends after the name, or goes on with another setting. -/
def closesAttribute (rest : List Char) : Bool :=
  rest = ")]".toList ∨ (", ".toList <+: rest ∧ ")]".toList <:+ rest)

/-- The name in the data that a line declares, if the line is such an attribute; none
    inside if the literal cannot be read. -/
def wireName? (line : String) : Option (Option String) :=
  (renameMark.toList.isPrefixOf? (line.toList.dropWhile (· = ' '))).map fun rest =>
    (Text.Literal.decode? rest).bind fun (name, after) =>
      if closesAttribute after then some name else none

/-- The names in the data that the lines of a text declare, in order. -/
def wireNames (text : String) : List (Option String) := (Text.lines text).filterMap wireName?

/-- The attribute with a name and what follows the name is read as the name. -/
theorem wireName?_tag {name rest : String} (hrest : closesAttribute rest.toList) :
    wireName? ("    " ++ (renameMark ++ Text.Literal.quote name ++ rest)) = some (some name) := by
  have hline : ("    " ++ (renameMark ++ Text.Literal.quote name ++ rest)).toList.dropWhile (· = ' ') =
      renameMark.toList ++ ((Text.Literal.quote name).toList ++ rest.toList) := by
    rw [String.toList_append, String.toList_append, String.toList_append, List.append_assoc]
    rfl
  unfold wireName?
  rw [hline, List.isPrefixOf?_eq_some_iff_append_eq.mpr rfl, Option.map_some,
    Text.Literal.decode?_quote, Option.bind_some]
  simp only [hrest, if_true]

theorem wireNames_append (first second : String) :
    wireNames (first ++ "\n" ++ second) = wireNames first ++ wireNames second := by
  unfold wireNames
  rw [Text.lines_append, List.filterMap_append]

theorem wireNames_line {line : String} {name : Option String} (hone : Text.OneLine line)
    (hname : wireName? line = some name) : wireNames line = [name] := by
  unfold wireNames
  rw [Text.lines_eq_singleton hone.1]
  simp [hname]

/-- A line declares something only if it starts as an attribute, after blanks. -/
theorem wireName?_eq_none_iff {line : String} :
    wireName? line = none ↔ ¬ renameMark.toList <+: line.toList.dropWhile (· = ' ') := by
  unfold wireName?
  rw [Option.map_eq_none_iff, Option.eq_none_iff_forall_ne_some]
  constructor
  · rintro hnone ⟨rest, hrest⟩
    exact hnone rest (List.isPrefixOf?_eq_some_iff_append_eq.mpr hrest)
  · intro hmark rest hrest
    exact hmark ⟨rest, List.isPrefixOf?_eq_some_iff_append_eq.mp hrest⟩

theorem wireName?_comment (shown : String) : wireName? ("///" ++ shown) = none := by
  rw [wireName?_eq_none_iff, String.toList_append]
  rintro ⟨rest, hrest⟩
  exact absurd (congrArg List.head? hrest) (by simp [renameMark])

/-- A line that derives traits declares nothing. -/
theorem wireNames_derive {line : String} (hline : '\n' ∉ line.toList)
    (hmark : "#[d".toList <+: line.toList) : wireNames line = [] := by
  have hnone : wireName? line = none := by
    rw [wireName?_eq_none_iff]
    obtain ⟨traits, htraits⟩ := hmark
    rintro ⟨rest, hrest⟩
    rw [← htraits] at hrest
    have hthird := congrArg (·[2]?) hrest
    exact absurd hthird (by simp [renameMark])
  unfold wireNames
  rw [Text.lines_eq_singleton hline]
  simp [hnone]

theorem wireNames_summary {shown : String} (hshown : '\n' ∉ shown.toList) :
    wireNames ("/// " ++ shown) = [] := by
  have hmark : "/// " = "///" ++ " " := rfl
  have hfeed : '\n' ∉ ("/// " ++ shown).toList := by
    rw [String.toList_append]
    simp [hshown]
  unfold wireNames
  rw [Text.lines_eq_singleton hfeed, List.filterMap_cons, hmark, String.append_assoc,
    wireName?_comment]
  rfl

/-! ### Bodies of definitions -/

/-- The body of a text is made of the items, and its attributes declare the names, both
    in order. -/
structure Declares (text : String) (items names : List String) : Prop where
  body : ∃ opening closing, text = opening ++ String.join (items.map (· ++ "\n")) ++ closing
  names : (names.map some).Sublist (wireNames text)

section

variable (summary : String) (description : Option String) {derive : String} (opening : String)
  (items : List String) (rest : String)

/-- A definition declares what its first line, its opening and its items declare, and
    whatever follows them. -/
theorem wireNames_definition (hderive : wireNames derive = []) :
    wireNames (heading summary description derive ++ braced opening items ++ rest) =
      wireNames ("/// " ++ summary) ++ (wireNames (opening ++ " \x7b") ++
        (items.flatMap wireNames ++ wireNames ("\x7d" ++ rest))) := by
  obtain ⟨docs, hdocs, hlines⟩ := lines_definition summary description derive opening items rest
  have hsilent : docs.filterMap wireName? = [] := by
    rw [List.filterMap_eq_nil_iff]
    intro line hline
    obtain ⟨shown, rfl⟩ := hdocs line hline
    exact wireName?_comment shown
  unfold wireNames at hderive ⊢
  rw [hlines]
  simp only [List.filterMap_append, hsilent, hderive, List.nil_append, List.filterMap_flatMap]

theorem declares_definition {α : Type} {parts : List α} {item name : α → String}
    (hderive : wireNames derive = [])
    (hparts : ∀ part, some (name part) ∈ wireNames (item part)) :
    Declares (heading summary description derive ++ braced opening (parts.map item) ++ rest)
      (parts.map item) (parts.map name) := by
  constructor
  · refine ⟨heading summary description derive ++ (opening ++ " \x7b\n"), "\x7d" ++ rest, ?_⟩
    simp only [braced, String.append_assoc]
  · have hitems : ((parts.map name).map some).Sublist ((parts.map item).flatMap wireNames) := by
      induction parts with
      | nil => exact List.Sublist.slnil
      | cons part parts ih =>
        rw [List.map_cons, List.map_cons, List.map_cons, List.flatMap_cons]
        exact List.Sublist.append (List.singleton_sublist.mpr (hparts part)) ih
    rw [wireNames_definition summary description opening _ rest hderive]
    exact hitems.trans ((List.sublist_append_left _ _).trans
      ((List.sublist_append_right _ _).trans (List.sublist_append_right _ _)))

/-- Where nothing but the items declares names, the text declares those of the items. -/
theorem wireNames_definition_eq {α : Type} {parts : List α} {item name : α → String}
    (hderive : wireNames derive = []) (hsummary : wireNames ("/// " ++ summary) = [])
    (hopening : wireNames (opening ++ " \x7b") = []) (hrest : wireNames ("\x7d" ++ rest) = [])
    (hparts : ∀ part ∈ parts, wireNames (item part) = [some (name part)]) :
    wireNames (heading summary description derive ++ braced opening (parts.map item) ++ rest) =
      (parts.map name).map some := by
  have hitems : (parts.map item).flatMap wireNames = (parts.map name).map some := by
    rw [List.flatMap_map, List.map_map, List.map_eq_flatMap]
    exact List.flatMap_congr hparts
  rw [wireNames_definition _ _ _ _ _ hderive, hsummary, hopening, hrest, hitems, List.nil_append,
    List.nil_append, List.append_nil]

end

/-! ### Texts without attributes -/

/-- A text without the mark that attributes start with. -/
def Unmarked (text : String) : Prop := '#' ∉ text.toList

instance (text : String) : Decidable (Unmarked text) :=
  inferInstanceAs (Decidable ('#' ∉ text.toList))

@[simp] theorem unmarked_append {first second : String} :
    Unmarked (first ++ second) ↔ Unmarked first ∧ Unmarked second := by
  unfold Unmarked
  rw [String.toList_append, List.mem_append, not_or]

theorem unmarked_join {texts : List String} (h : ∀ text ∈ texts, Unmarked text) :
    Unmarked (String.join texts) := by
  unfold Unmarked
  rw [String.toList_join, List.mem_flatMap]
  rintro ⟨text, htext, hmem⟩
  exact h text htext hmem

theorem unmarked_intercalate {joint : String} {texts : List String} (hjoint : Unmarked joint)
    (h : ∀ text ∈ texts, Unmarked text) : Unmarked (joint.intercalate texts) := by
  unfold Unmarked
  rw [String.toList_intercalate]
  intro hmem
  rcases Text.mem_intercalate hmem with hin | ⟨part, hpart, hin⟩
  · exact hjoint hin
  · obtain ⟨text, htext, rfl⟩ := List.mem_map.mp hpart
    exact h text htext hin

theorem unmarked_appended {text : String} (h : Unmarked text) : Unmarked (appended text) := by
  unfold appended
  split
  · decide
  · simp +decide [h]

theorem unmarked_indent {text : String} (h : Unmarked text) : Unmarked (Text.indent 1 text) := by
  intro hmem
  rcases Text.of_mem_indent hmem with hfeed | hblank | hin
  · revert hfeed
    decide
  · revert hblank
    decide
  · exact h hin

theorem unmarked_of_isName {name : String} (h : Text.IsName name) : Unmarked name :=
  Text.not_mem_of_isName h (by decide)

/-- A text without marks declares nothing. -/
theorem wireNames_eq_nil {text : String} (h : Unmarked text) : wireNames text = [] := by
  unfold wireNames
  rw [List.filterMap_eq_nil_iff]
  intro line hline
  rw [wireName?_eq_none_iff]
  intro hstarts
  have hmark : '#' ∈ line.toList.dropWhile (· = ' ') := hstarts.subset (by decide)
  exact h (Text.mem_of_mem_lines hline ((List.dropWhile_suffix _).subset hmark))

end Typewright
