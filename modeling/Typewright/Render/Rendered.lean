/-
  Typewright/Render/Rendered.lean
  ===============================
  **Rendered definitions** — the text of a generated type, with its name, its
  file and what else it needs.

  A definition opens with documentation lines and a line of derived traits.  A
  rendered definition without a name stands for nothing at all.
-/
import Typewright.Text.Lines
import Typewright.Types.Scope
import Typewright.Types.Traced

namespace Typewright

structure Rendered where
  /-- The name of the type; empty if nothing was rendered. -/
  name : String := ""
  /-- The file that the definition belongs to. -/
  file : String := ""
  text : String := ""
  /-- What the definition needs and mentions. -/
  dependencies : Dependencies := {}
  notices : List Notice := []

namespace Rendered

def isEmpty (rendered : Rendered) : Bool := rendered.name == ""

/-- The definition of a type in a scope, from its text. -/
def ofText (scope : Scope) (name : String) (text : Traced String) : Rendered where
  name
  file := scope.fileName name
  text := text.value
  dependencies := text.dependencies
  notices := text.notices

end Rendered

/-! ### Texts that definitions share -/

def structDerive : String :=
  "#[derive(Clone, Debug, PartialEq, Default, Serialize, Deserialize)]"

/-- The lines above a definition: what it is, its description and its traits. -/
def heading (summary : String) (description : Option String) (derive : String) : String :=
  "/// " ++ summary ++ "\n" ++ Text.docLines description ++ derive ++ "\n"

/-- A definition with a body between braces, each item of it on lines of its
    own. -/
def braced (opening : String) (items : List String) : String :=
  opening ++ " \x7b\n" ++ String.join (items.map (· ++ "\n")) ++ "\x7d"

def appended (text : String) : String := if text = "" then "" else "\n\n" ++ text

end Typewright
