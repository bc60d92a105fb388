/-
  Typewright/Proofs/Text/Pieces.lean
  ==================================
  **Pieces of a text** — taking a text apart at its separators loses nothing else.

  A text that is put together around a separator has the pieces of its two parts,
  one after the other, whatever they hold.  So a text can be read piece by piece in
  the order in which it was written.
-/
import Typewright.Text.Pieces

namespace Typewright.Text

@[simp] theorem flatten_consHead {α : Type} (a : α) (ps : List (List α)) :
    (consHead a ps).flatten = a :: ps.flatten := by
  cases ps with
  | nil => rfl
  | cons p rest => rfl

theorem consHead_append {α : Type} (a : α) {ps : List (List α)} (hps : ps ≠ [])
    (qs : List (List α)) : consHead a (ps ++ qs) = consHead a ps ++ qs := by
  cases ps with
  | nil => exact absurd rfl hps
  | cons p rest => rfl

theorem of_mem_consHead {α : Type} {a b : α} {ps : List (List α)} {piece : List α}
    (hpiece : piece ∈ consHead a ps) (hb : b ∈ piece) : b = a ∨ ∃ p ∈ ps, b ∈ p := by
  have hflat : b ∈ (consHead a ps).flatten := List.mem_flatten_of_mem hpiece hb
  rw [flatten_consHead] at hflat
  rcases List.mem_cons.mp hflat with hhead | hrest
  · exact Or.inl hhead
  · exact Or.inr (List.mem_flatten.mp hrest)

/-- The joint stands before every part but the first. -/
theorem intercalate_cons_eq {α : Type} (joint first : List α) (rest : List (List α)) :
    joint.intercalate (first :: rest) = first ++ (rest.map (joint ++ ·)).flatten := by
  induction rest generalizing first with
  | nil => simp
  | cons next rest ih =>
    rw [List.intercalate_cons_cons, ih]
    simp

/-- What is joined is made of its parts and of what joins them. -/
theorem mem_intercalate {α : Type} {a : α} {joint : List α} {parts : List (List α)}
    (ha : a ∈ joint.intercalate parts) : a ∈ joint ∨ ∃ part ∈ parts, a ∈ part := by
  induction parts with
  | nil => cases ha
  | cons part rest ih =>
    cases rest with
    | nil =>
      rw [List.intercalate_singleton] at ha
      exact Or.inr ⟨part, List.mem_cons_self, ha⟩
    | cons next rest =>
      rw [List.intercalate_cons_cons, List.append_assoc, List.mem_append, List.mem_append] at ha
      rcases ha with hpart | hjoint | hrest
      · exact Or.inr ⟨part, List.mem_cons_self, hpart⟩
      · exact Or.inl hjoint
      · rcases ih hrest with hjoint | ⟨other, hother, hmem⟩
        · exact Or.inl hjoint
        · exact Or.inr ⟨other, List.mem_cons_of_mem part hother, hmem⟩

section

variable (separates : Char → Bool)

theorem pieces_ne_nil (text : List Char) : pieces separates text ≠ [] := by
  cases text with
  | nil => simp [pieces]
  | cons c rest =>
    unfold pieces
    split
    · simp
    · intro hnil
      have hflat := congrArg List.flatten hnil
      simp at hflat

/-- The pieces around a separator are those before it and those after it. -/
theorem pieces_append (first : List Char) {c : Char} (hc : separates c) (second : List Char) :
    pieces separates (first ++ c :: second) =
      pieces separates first ++ pieces separates second := by
  induction first with
  | nil => simp [pieces, hc]
  | cons d rest ih =>
    simp only [List.cons_append, pieces, ih]
    split
    · rfl
    · exact consHead_append d (pieces_ne_nil separates rest) _

theorem pieces_eq_singleton {text : List Char} (htext : ∀ c ∈ text, separates c = false) :
    pieces separates text = [text] := by
  induction text with
  | nil => rfl
  | cons c rest ih =>
    have hc := htext c List.mem_cons_self
    have hrest := ih fun d hd => htext d (List.mem_cons_of_mem c hd)
    simp [pieces, hc, hrest, consHead]

/-- Parts that are joined by a separator, and hold none, are the pieces of the whole. -/
theorem pieces_intercalate {c : Char} (hc : separates c) {parts : List (List Char)}
    (hparts : parts ≠ []) (hfree : ∀ part ∈ parts, ∀ d ∈ part, separates d = false) :
    pieces separates ([c].intercalate parts) = parts := by
  induction parts with
  | nil => exact absurd rfl hparts
  | cons part rest ih =>
    have hpart := pieces_eq_singleton separates (hfree part List.mem_cons_self)
    cases rest with
    | nil => rw [List.intercalate_singleton, hpart]
    | cons next rest =>
      have hrest := ih (List.cons_ne_nil next rest) fun other hother =>
        hfree other (List.mem_cons_of_mem part hother)
      rw [List.intercalate_cons_cons, List.append_assoc, List.singleton_append,
        pieces_append separates part hc, hpart, hrest]
      rfl

/-- The pieces have all of a text but its separators, in order. -/
theorem flatten_pieces (text : List Char) :
    (pieces separates text).flatten = text.filter fun c => !separates c := by
  induction text with
  | nil => rfl
  | cons c rest ih =>
    rw [pieces]
    split
    · next hc => simp [ih, hc]
    · next hc => simp [ih, hc]

/-- Pieces hold no separator, and nothing that the text does not hold. -/
theorem of_mem_pieces {text piece : List Char} {c : Char} (hpiece : piece ∈ pieces separates text)
    (hc : c ∈ piece) : c ∈ text ∧ separates c = false := by
  have hin : c ∈ text.filter fun c => !separates c := by
    rw [← flatten_pieces]
    exact List.mem_flatten_of_mem hpiece hc
  simpa using hin

end

end Typewright.Text
