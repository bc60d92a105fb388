/-
  Typewright/Text/Spelling.lean
  =============================
  **Punctuation spelled out** — so that it survives the casing of names.

  `-1` becomes `_minus_1`: the underscores keep the spelled word apart from its
  neighbours.  Only the 32 ASCII characters that are neither letter, digit,
  control nor `_` have a name.
-/

namespace Typewright.Text

def punctuationName : Char → Option String
  | ' ' => some "space"
  | '!' => some "exclamation"
  | '\x22' => some "quotation"
  | '#' => some "hash"
  | '$' => some "dollar"
  | '%' => some "percent"
  | '&' => some "ampersand"
  | '\x27' => some "apostrophe"
  | '(' => some "roundleft"
  | ')' => some "roundright"
  | '*' => some "star"
  | '+' => some "plus"
  | ',' => some "comma"
  | '-' => some "minus"
  | '.' => some "dot"
  | '/' => some "slash"
  | ':' => some "colon"
  | ';' => some "semicolon"
  | '<' => some "less"
  | '=' => some "equal"
  | '>' => some "greater"
  | '?' => some "question"
  | '@' => some "at"
  | '[' => some "squareleft"
  | '\\' => some "backslash"
  | ']' => some "squareright"
  | '^' => some "circumflex"
  | '\x60' => some "graveaccent"
  | '\x7b' => some "curlyleft"
  | '|' => some "vertical"
  | '\x7d' => some "curlyright"
  | '~' => some "tilde"
  | _ => none

/-- A character, or its word between underscores. -/
def spellChar (c : Char) : List Char :=
  match punctuationName c with
  | some name => '_' :: name.toList ++ ['_']
  | none => [c]

def spellOut (text : String) : String :=
  String.ofList (text.toList.flatMap spellChar)

end Typewright.Text
