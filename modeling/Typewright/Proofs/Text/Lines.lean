/-
  Typewright/Proofs/Text/Lines.lean
  =================================
  **Texts line by line** — how a text is read that was written line by line.

  A text is read by its lines: those of two texts with a line feed between them are
  the lines of the first and then those of the second.  So a text that was put
  together from lines is read in the order in which it was written.

  Indenting works line by line too.  It keeps a line that has no end inside it, and
  puts nothing but blanks before it.
-/
import Mathlib.Data.List.Basic
import Typewright.Proofs.Text.Pieces
import Typewright.Text.Lines

namespace Typewright.Text

/-- The lines of a text; a text that ends in a line feed has an empty one after it. -/
def lines (text : String) : List String := (pieces (· == '\n') text.toList).map String.ofList

theorem lines_append (first second : String) :
    lines (first ++ "\n" ++ second) = lines first ++ lines second := by
  have htext : (first ++ "\n" ++ second).toList = first.toList ++ '\n' :: second.toList := by
    simp [String.toList_append]
  unfold lines
  rw [htext, pieces_append _ _ (by rfl), List.map_append]

theorem lines_eq_singleton {text : String} (htext : '\n' ∉ text.toList) : lines text = [text] := by
  unfold lines
  rw [pieces_eq_singleton]
  · simp
  · intro c hc
    have hne : c ≠ '\n' := fun heq => htext (heq ▸ hc)
    simpa using hne

/-- Items that each end a line are read one after the other. -/
theorem lines_join (items : List String) (rest : String) :
    lines (String.join (items.map (· ++ "\n")) ++ rest) = items.flatMap lines ++ lines rest := by
  induction items with
  | nil => simp [String.join_nil]
  | cons item items ih =>
    rw [List.map_cons, String.join_cons, String.append_assoc, lines_append, ih, List.flatMap_cons,
      List.append_assoc]

/-- Texts of one line, with a line feed between each two, are the lines of the whole. -/
theorem lines_intercalate {texts : List String} (hne : texts ≠ [])
    (htexts : ∀ text ∈ texts, '\n' ∉ text.toList) : lines ("\n".intercalate texts) = texts := by
  induction texts with
  | nil => exact absurd rfl hne
  | cons text texts ih =>
    have htext := lines_eq_singleton (htexts text List.mem_cons_self)
    cases texts with
    | nil => rw [String.intercalate_singleton, htext]
    | cons next texts =>
      have hrest := ih (List.cons_ne_nil next texts) fun other hother =>
        htexts other (List.mem_cons_of_mem text hother)
      rw [String.intercalate_cons_cons, lines_append, htext, hrest, List.singleton_append]

/-- Paragraphs, with an empty line between each two, are read one after the other. -/
theorem filterMap_lines_paragraphs {α : Type} {read : String → Option α} (hempty : read "" = none)
    (texts : List String) :
    (lines ("\n\n".intercalate texts)).filterMap read =
      texts.flatMap fun text => (lines text).filterMap read := by
  have hgap : lines "" = [""] := rfl
  have hbreak : "\n\n" = "\n" ++ "" ++ "\n" := rfl
  induction texts with
  | nil => simp [hgap, hempty]
  | cons text texts ih =>
    cases texts with
    | nil => simp
    | cons next texts =>
      rw [List.flatMap_cons, ← ih, String.intercalate_cons_cons, hbreak, ← String.append_assoc,
        ← String.append_assoc, lines_append, lines_append, hgap, List.filterMap_append,
        List.filterMap_append]
      simp [hempty]

/-- A line feed at the end adds nothing to read. -/
theorem filterMap_lines_endLine {α : Type} {read : String → Option α} (hempty : read "" = none)
    (text : String) :
    (lines (endLine text)).filterMap read = (lines text).filterMap read := by
  have hgap : lines "" = [""] := rfl
  unfold endLine
  split
  · rfl
  · have hend : text ++ "\n" = text ++ "\n" ++ "" := String.append_empty.symm
    rw [hend, lines_append, hgap, List.filterMap_append]
    simp [hempty]

/-- What follows a mark at the start of a line, if the mark is there. -/
def after? (mark line : String) : Option (List Char) := mark.toList.isPrefixOf? line.toList

theorem after?_append (mark rest : String) : after? mark (mark ++ rest) = some rest.toList := by
  unfold after?
  rw [List.isPrefixOf?_eq_some_iff_append_eq, String.toList_append]

theorem after?_eq_none {mark line : String} {c : Char} {rest : List Char}
    (hmark : mark.toList = c :: rest) (hline : ∀ d ∈ line.toList.head?, d ≠ c) :
    after? mark line = none := by
  unfold after?
  rw [Option.eq_none_iff_forall_ne_some]
  intro others hstarts
  have happend := List.isPrefixOf?_eq_some_iff_append_eq.mp hstarts
  rw [hmark] at happend
  rw [← happend] at hline
  exact hline c rfl rfl

/-- A line that starts in another way does not have the mark. -/
theorem after?_append_eq_none {mark lead : String} (hmark : ¬ mark.toList <+: lead.toList)
    (hlead : ¬ lead.toList <+: mark.toList) (rest : String) : after? mark (lead ++ rest) = none := by
  unfold after?
  rw [Option.eq_none_iff_forall_ne_some, String.toList_append]
  intro others hstarts
  have happend := List.isPrefixOf?_eq_some_iff_append_eq.mp hstarts
  rcases List.prefix_or_prefix_of_prefix ⟨others, happend⟩ (List.prefix_append _ _) with h | h
  · exact hmark h
  · exact hlead h

/-- A line holds what the text holds. -/
theorem mem_of_mem_lines {text line : String} {c : Char} (hline : line ∈ lines text)
    (hc : c ∈ line.toList) : c ∈ text.toList := by
  obtain ⟨piece, hpiece, rfl⟩ := List.mem_map.mp hline
  rw [String.toList_ofList] at hc
  exact (of_mem_pieces _ hpiece hc).1

/-! ### Texts of one line -/

/-- A text that no line end stands in. -/
def OneLine (text : String) : Prop := '\n' ∉ text.toList ∧ '\r' ∉ text.toList

instance (text : String) : Decidable (OneLine text) :=
  inferInstanceAs (Decidable ('\n' ∉ text.toList ∧ '\r' ∉ text.toList))

@[simp] theorem oneLine_append {first second : String} :
    OneLine (first ++ second) ↔ OneLine first ∧ OneLine second := by
  simp only [OneLine, String.toList_append, List.mem_append]
  grind

/-! ### Lines as they are split -/

/-- Lines hold no line feed, and nothing that the text does not hold. -/
theorem of_mem_splitLines {text line : List Char} {c : Char} (hline : line ∈ splitLines text)
    (hc : c ∈ line) : c ∈ text ∧ c ≠ '\n' := by
  fun_induction splitLines text generalizing line with
  | case1 => cases hline
  | case2 rest ih =>
    rcases List.mem_cons.mp hline with rfl | hrest
    · cases hc
    · obtain ⟨hin, hne⟩ := ih hrest hc
      exact ⟨List.mem_cons_of_mem _ hin, hne⟩
  | case3 rest ih =>
    rcases List.mem_cons.mp hline with rfl | hrest
    · cases hc
    · obtain ⟨hin, hne⟩ := ih hrest hc
      exact ⟨List.mem_cons_of_mem _ (List.mem_cons_of_mem _ hin), hne⟩
  | case4 d rest hfeed _ ih =>
    rcases of_mem_consHead hline hc with rfl | ⟨other, hother, hmem⟩
    · exact ⟨List.mem_cons_self, hfeed⟩
    · obtain ⟨hin, hne⟩ := ih hother hmem
      exact ⟨List.mem_cons_of_mem d hin, hne⟩

theorem splitLines_ne_nil {text : List Char} (htext : text ≠ []) : splitLines text ≠ [] := by
  fun_induction splitLines text with
  | case1 => exact absurd rfl htext
  | case2 | case3 => simp
  | case4 c rest =>
    intro hnil
    have hflat := congrArg List.flatten hnil
    simp at hflat

/-- A line without an end inside it is split off as it is. -/
theorem splitLines_append {line : List Char} (hfeed : '\n' ∉ line) (hreturn : '\r' ∉ line)
    (rest : List Char) : splitLines (line ++ '\n' :: rest) = line :: splitLines rest := by
  induction line with
  | nil => rw [List.nil_append, splitLines]
  | cons c line ih =>
    have hc : c ≠ '\n' ∧ c ≠ '\r' := by
      constructor
      · exact fun heq => hfeed (heq ▸ List.mem_cons_self)
      · exact fun heq => hreturn (heq ▸ List.mem_cons_self)
    have hline := ih (fun h => hfeed (List.mem_cons_of_mem c h))
      (fun h => hreturn (List.mem_cons_of_mem c h))
    rw [List.cons_append, splitLines, hline, consHead]
    · exact hc.1
    · exact fun _ heq => absurd heq hc.2

theorem splitLines_eq_singleton {line : List Char} (hline : line ≠ []) (hfeed : '\n' ∉ line)
    (hreturn : '\r' ∉ line) : splitLines line = [line] := by
  induction line with
  | nil => exact absurd rfl hline
  | cons c line ih =>
    have hc : c ≠ '\n' ∧ c ≠ '\r' := by
      constructor
      · exact fun heq => hfeed (heq ▸ List.mem_cons_self)
      · exact fun heq => hreturn (heq ▸ List.mem_cons_self)
    rw [splitLines]
    · cases line with
      | nil => rfl
      | cons d rest =>
        rw [ih (List.cons_ne_nil d rest) (fun h => hfeed (List.mem_cons_of_mem c h))
          (fun h => hreturn (List.mem_cons_of_mem c h)), consHead]
    · exact hc.1
    · exact fun _ heq => absurd heq hc.2

/-! ### Indenting -/

/-- A line is kept as it is, after four blanks. -/
theorem indent_append {line rest : String} (hline : line ≠ "") (hone : OneLine line)
    (hrest : rest ≠ "") :
    indent 1 (line ++ "\n" ++ rest) = "    " ++ line ++ "\n" ++ indent 1 rest := by
  have htext : (line ++ "\n" ++ rest).toList = line.toList ++ '\n' :: rest.toList := by
    simp [String.toList_append]
  unfold indent
  rw [htext, splitLines_append hone.1 hone.2]
  rcases hsplit : splitLines rest.toList with _ | ⟨next, others⟩
  · exact absurd hsplit (splitLines_ne_nil (by simpa using hrest))
  · apply String.toList_injective
    simp [hline, List.intercalate_cons_cons, String.toList_append, String.toList_ofList]

theorem indent_eq {line : String} (hline : line ≠ "") (hone : OneLine line) :
    indent 1 line = "    " ++ line := by
  unfold indent
  rw [splitLines_eq_singleton (by simpa using hline) hone.1 hone.2]
  apply String.toList_injective
  simp [hline, String.toList_append]

/-- Indenting adds blanks only. -/
theorem of_mem_indent {level : Nat} {text : String} {c : Char} (hc : c ∈ (indent level text).toList) :
    c = '\n' ∨ c = ' ' ∨ c ∈ text.toList := by
  unfold indent at hc
  rw [String.toList_ofList] at hc
  rcases mem_intercalate hc with hjoin | ⟨line, hline, hmem⟩
  · exact Or.inl (List.mem_singleton.mp hjoin)
  · obtain ⟨raw, hraw, rfl⟩ := List.mem_map.mp hline
    split at hmem
    · cases hmem
    · rcases List.mem_append.mp hmem with hpad | hin
      · exact Or.inr (Or.inl (List.eq_of_mem_replicate hpad))
      · exact Or.inr (Or.inr (of_mem_splitLines hraw hin).1)

/-- A line that is empty or starts with a blank. -/
def IsInner (line : String) : Prop := ∀ c ∈ line.toList.head?, c = ' '

theorem isInner_of_mem_lines_indent {text line : String} (hline : line ∈ lines (indent 1 text)) :
    IsInner line := by
  unfold lines indent at hline
  rw [String.toList_ofList] at hline
  obtain ⟨piece, hpiece, rfl⟩ := List.mem_map.mp hline
  unfold IsInner
  rw [String.toList_ofList]
  by_cases htext : text.toList = []
  · rw [htext] at hpiece
    obtain rfl := List.mem_singleton.mp hpiece
    intro c hc
    cases hc
  · rw [pieces_intercalate _ (by rfl)] at hpiece
    · obtain ⟨raw, -, rfl⟩ := List.mem_map.mp hpiece
      split
      · intro c hc
        cases hc
      · intro c hc
        exact (Option.mem_some_iff.mp hc).symm
    · simpa using splitLines_ne_nil htext
    · intro part hpart d hd
      obtain ⟨raw, hraw, rfl⟩ := List.mem_map.mp hpart
      split at hd
      · cases hd
      · rcases List.mem_append.mp hd with hpad | hin
        · rw [List.eq_of_mem_replicate hpad]
          rfl
        · simpa using (of_mem_splitLines hraw hin).2

/-! ### Documentation lines -/

theorem mem_of_mem_trimRight {text : List Char} {c : Char} (hc : c ∈ trimRight text) : c ∈ text := by
  unfold trimRight at hc
  have hdrop := (List.dropWhile_suffix isBlank).subset (List.mem_reverse.mp hc)
  exact List.mem_reverse.mp hdrop

/-- A documentation line is one line, and shows what it is. -/
theorem exists_docLine {line : List Char} (hline : '\n' ∉ line) :
    ∃ shown : String, '\n' ∉ shown.toList ∧ docLine line = "///" ++ shown ++ "\n" := by
  unfold docLine
  simp only
  split
  · exact ⟨"", by simp, rfl⟩
  · refine ⟨" " ++ String.ofList (trimRight line), ?_, ?_⟩
    · rw [String.toList_append, List.mem_append]
      rintro (hblank | hmem)
      · revert hblank
        decide
      · rw [String.toList_ofList] at hmem
        exact hline (mem_of_mem_trimRight hmem)
    · rw [← String.append_assoc]
      rfl

/-- Documentation lines are read one after the other. -/
theorem exists_lines_join_docLine {texts : List (List Char)} (htexts : ∀ line ∈ texts, '\n' ∉ line) :
    ∃ docs : List String, (∀ line ∈ docs, ∃ shown, line = "///" ++ shown) ∧
      ∀ rest, lines (String.join (texts.map docLine) ++ rest) = docs ++ lines rest := by
  induction texts with
  | nil => exact ⟨[], by simp, by simp [String.join_nil]⟩
  | cons line texts ih =>
    obtain ⟨docs, hdocs, hlines⟩ := ih fun other hother => htexts other (List.mem_cons_of_mem line hother)
    obtain ⟨shown, hfeed, hdoc⟩ := exists_docLine (htexts line List.mem_cons_self)
    have hone : '\n' ∉ ("///" ++ shown).toList := by
      rw [String.toList_append]
      simp [hfeed]
    refine ⟨("///" ++ shown) :: docs, ?_, ?_⟩
    · intro other hother
      rcases List.mem_cons.mp hother with rfl | hmem
      · exact ⟨shown, rfl⟩
      · exact hdocs other hmem
    · intro rest
      rw [List.map_cons, String.join_cons, hdoc, String.append_assoc, lines_append, hlines,
        lines_eq_singleton hone]
      rfl

/-- A description gives documentation lines only, whatever it holds. -/
theorem exists_lines_docLines (description : Option String) :
    ∃ docs : List String, (∀ line ∈ docs, ∃ shown, line = "///" ++ shown) ∧
      ∀ rest, lines (docLines description ++ rest) = docs ++ lines rest := by
  unfold docLines
  split
  · exact ⟨[], by simp, by simp⟩
  · next text _ =>
    obtain ⟨docs, hdocs, hlines⟩ := exists_lines_join_docLine
      fun line (hline : line ∈ splitLines text) hmem => (of_mem_splitLines hline hmem).2 rfl
    refine ⟨"///" :: docs, ?_, ?_⟩
    · intro line hline
      rcases List.mem_cons.mp hline with rfl | hmem
      · exact ⟨"", rfl⟩
      · exact hdocs line hmem
    · intro rest
      have hsplit : "///\n" ++ String.join ((splitLines text).map docLine) ++ rest =
          "///" ++ "\n" ++ (String.join ((splitLines text).map docLine) ++ rest) := by
        rw [← String.append_assoc]
        rfl
      rw [hsplit, lines_append, hlines]
      rfl

end Typewright.Text
