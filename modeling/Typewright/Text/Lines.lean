/-
  Typewright/Text/Lines.lean
  ==========================
  **Lines of text** — splitting, trimming and indenting.

  A line ends at a line feed, together with a carriage return right before it.
  A text that ends in a line feed has no empty line after it.
-/
import Typewright.Text.Pieces

namespace Typewright.Text

/-- Characters with the property `White_Space`, beyond ASCII too. -/
def isBlank (c : Char) : Bool :=
  let code := c.toNat
  (9 ≤ code && code ≤ 13) || code == 0x20 || code == 0x85 || code == 0xa0 || code == 0x1680
    || (0x2000 ≤ code && code ≤ 0x200a) || code == 0x2028 || code == 0x2029 || code == 0x202f
    || code == 0x205f || code == 0x3000

def trimRight (text : List Char) : List Char := (text.reverse.dropWhile isBlank).reverse

def trimBoth (text : List Char) : List Char := trimRight (text.dropWhile isBlank)

/-- The lines of a text, without their ends. -/
def splitLines : List Char → List (List Char)
  | [] => []
  | '\n' :: rest => [] :: splitLines rest
  | '\r' :: '\n' :: rest => [] :: splitLines rest
  | c :: rest => consHead c (splitLines rest)

/-- Indents every line that is not empty by `level` steps of four spaces. -/
def indent (level : Nat) (text : String) : String :=
  let pad := List.replicate (4 * level) ' '
  let shift (line : List Char) : List Char := if line.isEmpty then [] else pad ++ line
  String.ofList (['\n'].intercalate ((splitLines text.toList).map shift))

/-- A text with a line feed at its end: one is added unless it is there. -/
def endLine (text : String) : String :=
  if text.toList.getLast? = some '\n' then text else text ++ "\n"

/-! ### Documentation comments -/

def docLine (line : List Char) : String :=
  let line := trimRight line
  if line.isEmpty then "///\n" else "/// " ++ String.ofList line ++ "\n"

/-- A description as documentation lines below an empty one; nothing if it is
    blank or missing. -/
def docLines (description : Option String) : String :=
  match (description.map fun d => trimBoth d.toList).filter (!·.isEmpty) with
  | none => ""
  | some text => "///\n" ++ String.join ((splitLines text).map docLine)

end Typewright.Text
