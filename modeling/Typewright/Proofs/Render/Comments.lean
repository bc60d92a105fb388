/-
  Typewright/Proofs/Render/Comments.lean
  ======================================
  **Comments** — which texts of a schema leave the comment above a definition.

  A definition opens with lines of comment, down to the line of its traits.  Names
  have no line feeds, and a description is written line by line.  Other texts stand
  in the comment as they are: the name of a field and that of its owner above a tuple,
  and the names of types above an enumeration.  A line feed in one of them ends the
  comment, unless the mark of a comment follows in the text itself
  (`comments_iff`).
-/
import Mathlib.Data.List.Basic
import Typewright.Proofs.Render.Defaults
import Typewright.Proofs.Render.WireNames

namespace Typewright

namespace Text

/-! ### Lines of comment -/

def commentMark : List Char := "///".toList

def IsComment (line : String) : Prop := commentMark <+: line.toList

instance (line : String) : Decidable (IsComment line) :=
  inferInstanceAs (Decidable (commentMark <+: line.toList))

theorem isComment_append (shown : String) : IsComment ("///" ++ shown) := by
  unfold IsComment
  rw [String.toList_append]
  exact List.prefix_append _ _

/-- A text that a comment can show as it is: the mark of a comment follows every line
    feed. -/
def KeepsComment (text : String) : Prop :=
  ∀ before after : List Char, text.toList = before ++ '\n' :: after → commentMark <+: after

theorem keepsComment_of_not_mem {text : String} (htext : '\n' ∉ text.toList) :
    KeepsComment text := by
  intro before after hsplit
  exact absurd (hsplit ▸ List.mem_append_right _ List.mem_cons_self) htext

/-- A mark that goes on with another character ends before it. -/
theorem mark_prefix_append_iff {first second : List Char}
    (hsecond : ∀ c ∈ second.head?, c ≠ '/') :
    commentMark <+: first ++ second ↔ commentMark <+: first := by
  constructor
  · intro hmark
    rcases List.prefix_or_prefix_of_prefix hmark (List.prefix_append first second) with h | h
    · exact h
    · obtain ⟨others, hothers⟩ := h
      rw [← hothers, List.prefix_append_right_inj] at hmark
      cases others with
      | nil => exact ⟨[], by rw [← hothers]; simp⟩
      | cons c others =>
        obtain ⟨rest, rfl⟩ := hmark
        have hslash : ∀ d ∈ commentMark, d = '/' := by simp [commentMark]
        refine absurd (hslash c ?_) (hsecond c rfl)
        rw [← hothers]
        exact List.mem_append_right _ List.mem_cons_self
  · exact fun hmark => hmark.trans (List.prefix_append _ _)

/-- A character of two texts stands in the second one, or in the first with the second
    behind it. -/
theorem append_eq_append_cons {first second before after : List Char} {c : Char}
    (h : first ++ second = before ++ c :: after) :
    (∃ inner, second = inner ++ c :: after) ∨
      ∃ rest, first = before ++ c :: rest ∧ after = rest ++ second := by
  rcases List.append_eq_append_iff.mp h with ⟨inner, -, hsecond⟩ | ⟨inner, hfirst, hinner⟩
  · exact Or.inl ⟨inner, hsecond⟩
  · rcases List.cons_eq_append_iff.mp hinner with ⟨rfl, hsecond⟩ | ⟨rest, rfl, hafter⟩
    · exact Or.inl ⟨[], hsecond⟩
    · exact Or.inr ⟨rest, hfirst, hafter⟩

theorem KeepsComment.of_append {first second : String} (h : KeepsComment (first ++ second)) :
    KeepsComment second := by
  intro before after hsplit
  apply h (first.toList ++ before)
  rw [String.toList_append, hsplit, List.append_assoc]

/-- Of two texts of which the second starts with no slash, each keeps the comment for
    itself. -/
theorem keepsComment_append_iff {first second : String}
    (hsecond : ∀ c ∈ second.toList.head?, c ≠ '/') :
    KeepsComment (first ++ second) ↔ KeepsComment first ∧ KeepsComment second := by
  constructor
  · intro hkeeps
    refine ⟨?_, hkeeps.of_append⟩
    intro before after hsplit
    apply (mark_prefix_append_iff hsecond).mp
    apply hkeeps before
    rw [String.toList_append, hsplit, List.append_assoc, List.cons_append]
  · rintro ⟨hfirst, hrest⟩ before after hsplit
    rw [String.toList_append] at hsplit
    rcases append_eq_append_cons hsplit with ⟨inner, hinner⟩ | ⟨rest, hin, rfl⟩
    · exact hrest inner after hinner
    · exact (hfirst before rest hin).trans (List.prefix_append _ _)

/-- A text without line feeds in front changes nothing. -/
theorem keepsComment_append_right_iff {first second : String} (hfirst : '\n' ∉ first.toList) :
    KeepsComment (first ++ second) ↔ KeepsComment second := by
  constructor
  · exact KeepsComment.of_append
  · intro hsecond before after hsplit
    rw [String.toList_append] at hsplit
    rcases append_eq_append_cons hsplit with ⟨inner, hinner⟩ | ⟨rest, hin, -⟩
    · exact hsecond inner after hinner
    · exact absurd (hin ▸ List.mem_append_right _ List.mem_cons_self) hfirst

/-- After a line feed, the text has to be a comment itself. -/
theorem keepsComment_feed_iff (text : String) :
    KeepsComment ("\n" ++ text) ↔ IsComment text ∧ KeepsComment text := by
  have hletters : ("\n" ++ text).toList = '\n' :: text.toList := by simp [String.toList_append]
  unfold KeepsComment
  rw [hletters]
  constructor
  · intro hkeeps
    refine ⟨hkeeps [] text.toList rfl, fun before after hsplit => ?_⟩
    apply hkeeps ('\n' :: before)
    rw [hsplit, List.cons_append]
  · rintro ⟨hmark, hkeeps⟩ before after hsplit
    rcases List.cons_eq_append_iff.mp hsplit with ⟨rfl, hafter⟩ | ⟨inner, rfl, hinner⟩
    · obtain rfl := (List.cons.inj hafter).2
      exact hmark
    · exact hkeeps inner after hinner

/-- The lines of a text are lines of comment just if it starts as one and keeps it. -/
theorem forall_lines_isComment_iff (text : String) :
    (∀ line ∈ lines text, IsComment line) ↔ IsComment text ∧ KeepsComment text := by
  induction hlength : text.toList.length using Nat.strong_induction_on generalizing text with
  | _ length ih =>
    by_cases hfeed : '\n' ∈ text.toList
    · -- the first line ends at the first line feed
      obtain ⟨before, after, hsplit, hbefore⟩ := List.eq_append_cons_of_mem hfeed
      obtain ⟨first, rfl⟩ : ∃ first : String, before = first.toList := ⟨.ofList before, by simp⟩
      obtain ⟨rest, rfl⟩ : ∃ rest : String, after = rest.toList := ⟨.ofList after, by simp⟩
      have htext : text = first ++ "\n" ++ rest := by
        apply String.toList_injective
        simp [hsplit, String.toList_append]
      have hshorter : rest.toList.length < length := by
        rw [← hlength, hsplit, List.length_append, List.length_cons]
        omega
      have hrest := ih _ hshorter rest rfl
      have hstart : ∀ c ∈ ("\n" ++ rest).toList.head?, c ≠ '/' := by
        rw [String.toList_append]
        rintro c hc rfl
        cases hc
      have hmark : IsComment (first ++ ("\n" ++ rest)) ↔ IsComment first := by
        unfold IsComment
        rw [String.toList_append, mark_prefix_append_iff hstart]
      rw [htext, lines_append, lines_eq_singleton hbefore, List.forall_mem_append,
        List.forall_mem_singleton, hrest, String.append_assoc, hmark,
        keepsComment_append_iff hstart, keepsComment_feed_iff]
      exact and_congr_right fun _ => (and_iff_right (keepsComment_of_not_mem hbefore)).symm
    · rw [lines_eq_singleton hfeed, List.forall_mem_singleton]
      exact (and_iff_left (keepsComment_of_not_mem hfeed)).symm

/-! ### Texts put together -/

/-- A text that is neither part of a mark nor ends a line. -/
structure Neutral (text : String) : Prop where
  start : ∃ c ∈ text.toList.head?, c ≠ '/'
  noFeed : '\n' ∉ text.toList

section

variable {between : String} (hbetween : Neutral between)
include hbetween

theorem Neutral.head_append (rest : String) : ∀ c ∈ (between ++ rest).toList.head?, c ≠ '/' := by
  obtain ⟨c, hhead, hslash⟩ := hbetween.start
  intro d hd
  rw [String.toList_append, List.head?_append, hhead] at hd
  obtain rfl := Option.mem_some_iff.mp hd
  exact hslash

/-- What stands on both sides of such a text keeps the comment for itself. -/
theorem keepsComment_between_iff {first second : String} :
    KeepsComment (first ++ between ++ second) ↔ KeepsComment first ∧ KeepsComment second := by
  rw [String.append_assoc, keepsComment_append_iff (hbetween.head_append second),
    keepsComment_append_right_iff hbetween.noFeed]

theorem keepsComment_before_iff {first : String} :
    KeepsComment (first ++ between) ↔ KeepsComment first := by
  have hnone : KeepsComment "" := keepsComment_of_not_mem (by decide)
  rw [← String.append_empty (s := first ++ between), keepsComment_between_iff hbetween]
  exact and_iff_left hnone

theorem keepsComment_intercalate_iff (texts : List String) :
    KeepsComment (between.intercalate texts) ↔ ∀ text ∈ texts, KeepsComment text := by
  induction texts with
  | nil => exact iff_of_true (keepsComment_of_not_mem (by simp)) (by simp)
  | cons text texts ih =>
    cases texts with
    | nil => simp
    | cons next texts =>
      rw [String.intercalate_cons_cons, keepsComment_between_iff hbetween, ih,
        List.forall_mem_cons (l := next :: texts)]

end

theorem keepsComment_of_isName {name : String} (hname : IsName name) : KeepsComment name :=
  keepsComment_of_not_mem (oneLine_of_isName hname).1

end Text

/-! ### Texts that are shown -/

/-- The names of the types that a node declares. -/
def Node.typeNames (node : Node) : List String := (node.type.map TypeDecl.names).getD []

/-- Types of single values have names of one line, and are shown on one. -/
theorem Shape.noFeed_of_scalarText {name shown : String}
    (hscalar : (Shape.ofTypeName name).scalarText = some shown) :
    '\n' ∉ name.toList ∧ '\n' ∉ shown.toList := by
  have hnames : ∀ name ∈ ["string", "integer", "int32", "int64", "long", "number", "boolean"],
      '\n' ∉ name.toList := by decide
  cases hshape : Shape.ofTypeName name with
  | scalar type =>
    rw [hshape] at hscalar
    obtain rfl := Option.some.inj hscalar
    constructor
    · apply hnames
      unfold Shape.ofTypeName at hshape
      grind
    · cases type <;> decide
  | _ =>
    rw [hshape] at hscalar
    cases hscalar

/-- An enumeration shows the names of its types. -/
theorem Node.keepsComment_typeDescription_iff (node : Node) :
    Text.KeepsComment node.typeDescription ↔ ∀ name ∈ node.typeNames, Text.KeepsComment name := by
  unfold Node.typeDescription Node.typeNames
  rcases node.type with _ | ⟨name⟩ | ⟨names⟩
  · exact iff_of_true (Text.keepsComment_of_not_mem (by decide)) (by simp)
  · have hone : (∀ raw ∈ [name], Text.KeepsComment raw) ↔ Text.KeepsComment name :=
      List.forall_mem_singleton
    apply Iff.trans _ hone.symm
    simp only
    cases hscalar : (Shape.ofTypeName name).scalarText with
    | none => exact Iff.rfl
    | some shown =>
      obtain ⟨hname, hshown⟩ := Shape.noFeed_of_scalarText hscalar
      exact iff_of_true (Text.keepsComment_of_not_mem hshown) (Text.keepsComment_of_not_mem hname)
  · have hcomma : Text.Neutral "," := ⟨⟨',', rfl, by decide⟩, by decide⟩
    have hclose : Text.Neutral "]" := ⟨⟨']', rfl, by decide⟩, by decide⟩
    have hopen : '\n' ∉ "[".toList := by decide
    simp only [String.append_assoc, Text.keepsComment_append_right_iff hopen,
      Text.keepsComment_before_iff hclose, Text.keepsComment_intercalate_iff hcomma]
    exact Iff.rfl

/-! ### Comments above definitions -/

/-- The text has `above` on top of the line of its traits and of its body.  These lines are
    lines of comment just if every text that is shown in them keeps the comment. -/
def CommentsOn (shown : List String) (derive body text : String) : Prop :=
  ∃ above, Text.lines text = above ++ derive :: Text.lines body ∧
    ((∀ line ∈ above, Text.IsComment line) ↔ ∀ raw ∈ shown, Text.KeepsComment raw)

theorem commentsOn_heading {shown : List String} {summary derive : String}
    (description : Option String) (body : String)
    (hsummary : Text.KeepsComment summary ↔ ∀ raw ∈ shown, Text.KeepsComment raw)
    (hderive : '\n' ∉ derive.toList) :
    CommentsOn shown derive body (heading summary description derive ++ body) := by
  obtain ⟨docs, hdocs, hlines⟩ := lines_heading summary description derive
  refine ⟨Text.lines ("/// " ++ summary) ++ docs, ?_, ?_⟩
  · rw [hlines, Text.lines_eq_singleton hderive, List.append_assoc]
    rfl
  · have hmark : Text.IsComment ("/// " ++ summary) := by
      have hsplit : "/// " ++ summary = "///" ++ (" " ++ summary) := by
        rw [← String.append_assoc]
        rfl
      rw [hsplit]
      exact Text.isComment_append _
    have hcomments : ∀ line ∈ docs, Text.IsComment line := by
      intro line hline
      obtain ⟨comment, rfl⟩ := hdocs line hline
      exact Text.isComment_append comment
    rw [List.forall_mem_append, Text.forall_lines_isComment_iff,
      Text.keepsComment_append_right_iff (by decide), and_iff_right hmark,
      and_iff_left hcomments, hsummary]

theorem oneLine_structDerive : Text.OneLine structDerive := by
  simp [Text.OneLine, structDerive]

/-- A struct shows its name, twice. -/
theorem Scope.commentsOn_struct (scope : Scope) (site : Site) {shown : List String}
    (hname : Text.KeepsComment scope.name ↔ ∀ raw ∈ shown, Text.KeepsComment raw) :
    CommentsOn shown structDerive
      (braced ("pub struct " ++ scope.name) ((scope.slots site).map scope.slotText))
      (StructHooks.render {} scope site false).text := by
  have hkind : Text.Neutral " represents a " := ⟨⟨' ', rfl, by decide⟩, by decide⟩
  have hend : Text.Neutral " model." := ⟨⟨' ', rfl, by decide⟩, by decide⟩
  rw [scope.text_struct, if_neg (by decide), String.append_empty]
  apply commentsOn_heading
  · rw [Text.keepsComment_before_iff hend, Text.keepsComment_between_iff hkind, and_self]
    exact hname
  · exact oneLine_structDerive.1

/-- A tuple shows its name, that of the field and that of the owner. -/
theorem Scope.commentsOn_tuple (scope : Scope) (dependency : Dependency) :
    let types := (scope.tupleTypes dependency).value
    let owner := dependency.parent.id.getD dependency.parentName
    CommentsOn [dependency.typeName, dependency.field, owner] structDerive
      ("pub struct " ++ dependency.typeName ++ "("
        ++ ", ".intercalate (types.map fun type => "pub " ++ type.text) ++ ");")
      (scope.tupleText dependency).value := by
  intro types owner
  have hfield : Text.Neutral " represents field " := ⟨⟨' ', rfl, by decide⟩, by decide⟩
  have howner : Text.Neutral " from " := ⟨⟨' ', rfl, by decide⟩, by decide⟩
  have hend : Text.Neutral " model." := ⟨⟨' ', rfl, by decide⟩, by decide⟩
  have htext : (scope.tupleText dependency).value =
      heading (dependency.typeName ++ " represents field " ++ dependency.field ++ " from " ++ owner
          ++ " model.") none structDerive
        ++ ("pub struct " ++ dependency.typeName ++ "("
          ++ ", ".intercalate (types.map fun type => "pub " ++ type.text) ++ ");") := by
    simp only [tupleText, Traced.value_bind, Traced.value_pure, String.append_assoc, types, owner]
  rw [htext]
  apply commentsOn_heading
  · rw [Text.keepsComment_before_iff hend, Text.keepsComment_between_iff howner,
      Text.keepsComment_between_iff hfield]
    simp only [List.forall_mem_cons, List.not_mem_nil, false_implies, implies_true, and_true,
      and_assoc]
  · exact oneLine_structDerive.1

namespace EnumHooks

/-- An enumeration shows the names of its types. -/
theorem commentsOn_render {scope : Scope} (hname : Text.KeepsComment scope.name) :
    CommentsOn scope.model.typeNames (traits (written {} scope))
      (braced ("pub enum " ++ scope.name) ((written {} scope).flatMap variantLines))
      (EnumHooks.render {} scope false).text := by
  have hkind : Text.Neutral " enum of type: " := ⟨⟨' ', rfl, by decide⟩, by decide⟩
  rw [text_render]
  apply commentsOn_heading
  · rw [Text.keepsComment_between_iff hkind, and_iff_right hname,
      scope.model.keepsComment_typeDescription_iff]
  · unfold traits
    split
    · simp [unitDerive]
    · simp [payloadDerive]

end EnumHooks

namespace Options

/-- **Comments.**  The lines above the traits of a struct of a model are lines of comment,
    whatever the model says.  Above an enumeration they are if the names of its types keep
    the comment, and above a definition on the side if its own name does and, for a tuple,
    the name of the field and that of the owner as well.  A description never ends the
    comment. -/
theorem keeps_comments_iff (registry : Registry) :
    (∀ site : Site,
      let scope := Scope.ofModel {} registry site.node
      CommentsOn [] structDerive
        (braced ("pub struct " ++ scope.name) ((scope.slots site).map scope.slotText))
        (({} : Options).renderStruct registry site).text) ∧
    (∀ model : Node,
      let scope := Scope.ofModel {} registry model
      let variants := ({} : Options).variants registry model
      CommentsOn model.typeNames (EnumHooks.traits variants)
        (braced ("pub enum " ++ scope.name) (variants.flatMap EnumHooks.variantLines))
        (({} : Options).renderEnum registry model).text) ∧
    (∀ dependency : Dependency,
      let scope : Scope := { Scope.ofModel {} registry dependency.site.node with
        name := dependency.typeName }
      CommentsOn [dependency.typeName] structDerive
        (braced ("pub struct " ++ dependency.typeName)
          ((scope.slots dependency.site).map scope.slotText))
        (({} : Options).renderRecord registry dependency).text) ∧
    ∀ dependency : Dependency,
      let types := ((Scope.ofParent {} registry dependency).tupleTypes dependency).value
      let owner := dependency.parent.id.getD dependency.parentName
      CommentsOn [dependency.typeName, dependency.field, owner] structDerive
        ("pub struct " ++ dependency.typeName ++ "("
          ++ ", ".intercalate (types.map fun type => "pub " ++ type.text) ++ ");")
        (({} : Options).renderTuple registry dependency).text := by
  have hdefault : ({} : NameRules).convention = {} := rfl
  have hname : ∀ model, Text.KeepsComment (Scope.ofModel {} registry model).name := by
    intro model
    exact Text.keepsComment_of_isName (NameRules.isName_typeName hdefault _ _)
  refine ⟨?_, ?_, ?_, ?_⟩
  · intro site scope
    exact scope.commentsOn_struct site (iff_of_true (hname site.node) (by simp))
  · intro model scope variants
    exact EnumHooks.commentsOn_render (hname model)
  · intro dependency scope
    exact scope.commentsOn_struct dependency.site List.forall_mem_singleton.symm
  · intro dependency types owner
    exact Scope.commentsOn_tuple _ dependency

/-- A plan with corners, the name of which takes two lines. -/
def plan : Node where
  id := some "Plan"
  type := some (.single "object")
  properties := some [("corners\nof", {
    type := some (.single "array")
    items := some (.tuple [{ type := some (.single "string") }]) })]

/-- The second line of the name stands above the tuple of the corners as it is. -/
theorem plan_leaves_comment :
    let site := Site.root (.entry "Plan") plan
    ∃ above body, structDerive ∉ above ∧ "of from Plan model." ∈ above ∧
      Text.lines (({} : Options).renderComplete ⟨[("Plan", plan)]⟩ site).text =
        above ++ structDerive :: body ∧
      ¬ ∀ line ∈ above, Text.IsComment line := by
  intro site
  have htext : (({} : Options).renderComplete ⟨[("Plan", plan)]⟩ site).text =
      "/// PlanCornersOf represents field corners" ++ "\n" ++ ("of from Plan model." ++ "\n"
        ++ (structDerive ++ "\n" ++ ("pub struct PlanCornersOf(pub String);\n\n"
          ++ (({} : Options).renderModel ⟨[("Plan", plan)]⟩ site).text))) := by
    decide +kernel
  refine ⟨["/// PlanCornersOf represents field corners", "of from Plan model."],
    Text.lines ("pub struct PlanCornersOf(pub String);\n\n"
      ++ (({} : Options).renderModel ⟨[("Plan", plan)]⟩ site).text),
    by decide, List.mem_cons_of_mem _ List.mem_cons_self, ?_, by decide⟩
  rw [htext, Text.lines_append, Text.lines_append, Text.lines_append,
    Text.lines_eq_singleton (by decide), Text.lines_eq_singleton (by decide),
    Text.lines_eq_singleton oneLine_structDerive.1]
  simp only [List.cons_append, List.nil_append]

end Options

end Typewright
