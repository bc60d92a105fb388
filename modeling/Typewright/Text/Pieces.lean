/-
  Typewright/Text/Pieces.lean
  ===========================
  **Texts taken apart** — at every character that separates.
-/

namespace Typewright.Text

/-- Puts a character in front of the first of some pieces. -/
def consHead {α : Type} (a : α) : List (List α) → List (List α)
  | [] => [[a]]
  | piece :: rest => (a :: piece) :: rest

/-- The pieces of a text between separators; two neighbouring separators have an
    empty piece between them. -/
def pieces (separates : Char → Bool) : List Char → List (List Char)
  | [] => [[]]
  | c :: rest =>
    if separates c then [] :: pieces separates rest else consHead c (pieces separates rest)

end Typewright.Text
