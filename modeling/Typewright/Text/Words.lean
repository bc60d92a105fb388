/-
  Typewright/Text/Words.lean
  ==========================
  **Names taken apart into words and put together again** — the two casings of
  identifiers.

  Every character that is neither letter nor digit separates words.  Inside a
  run of word characters a word also ends

    * after a small letter that a capital follows (`streetName`), and
    * before the last capital of a row that a small letter follows (`HTTPServer`).

  Digits and letters without case belong to the word they stand in and do not
  change what the next letter means.

  `snakeCase` lowers every word and joins the words by `_`; `pascalCase` raises
  the first character of every word and joins them by nothing.
-/
import Typewright.Text.LetterCase
import Typewright.Text.Letters
import Typewright.Text.Pieces

namespace Typewright.Text

/-! ### Splitting -/

/-- The maximal runs of word characters; two neighbouring separators have an
    empty run between them. -/
def wordRuns (text : List Char) : List (List Char) := pieces (!isWordChar ·) text

/-- The case of the letters read so far in the current word. -/
inductive WordMode where
  | start
  | lower
  | upper
deriving DecidableEq

/-- The mode after `c`, if no word ends there. -/
def WordMode.after (mode : WordMode) (c : Char) : WordMode :=
  if isLowercase c then .lower else if isUppercase c then .upper else mode

/-- The words of one run.  An empty first word of the result means that a word
    ends before the run: this happens only in mode `upper`, where the caller
    holds the characters of that word. -/
def splitRun : WordMode → List Char → List (List Char)
  | _, [] => []
  | _, [c] => [[c]]
  | mode, c :: n :: rest =>
    if mode.after c = .lower ∧ isUppercase n then
      [c] :: splitRun .start (n :: rest)
    else if mode = .upper ∧ isUppercase c ∧ isLowercase n then
      [] :: consHead c (splitRun .start (n :: rest))
    else
      consHead c (splitRun (mode.after c) (n :: rest))

def words (text : List Char) : List (List Char) :=
  (wordRuns text).flatMap (splitRun .start)

/-! ### Casing -/

/-- A word in small letters.  A `Σ` at the end of a word becomes `ς`. -/
def lowerWord : List Char → List Char
  | [] => []
  | ['Σ'] => ['ς']
  | c :: rest => toLowers c ++ lowerWord rest

/-- A word with a capital first character and small letters after it. -/
def capitalizeWord : List Char → List Char
  | [] => []
  | c :: rest => toUppers c ++ lowerWord rest

/-- Small words joined by `_`: `streetName` becomes `street_name`. -/
def snakeCase (text : String) : String :=
  String.ofList (['_'].intercalate ((words text.toList).map lowerWord))

/-- Capitalized words: `street-name` becomes `StreetName`. -/
def pascalCase (text : String) : String :=
  String.ofList ((words text.toList).flatMap capitalizeWord)

def upperCase (text : String) : String :=
  String.ofList (text.toList.flatMap toUppers)

end Typewright.Text
