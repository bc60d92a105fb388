/-
  Typewright/Json/Printer.lean
  ============================
  **JSON values as text** — compact, on one line, with the fewest digits that
  read back.
-/
import Typewright.Json.Basic
import Typewright.Text.Quoted

namespace Typewright

open Number (Layout)

/-- Numbers from `1e-5` up to, not including, `1e16` are positional; an exponent
    has its sign, and a tie goes to the even digit. -/
def JsonNumber.layout : Layout := ⟨-5, 16, true, false⟩

def JsonNumber.text : JsonNumber → String
  | .whole n => toString n
  | .real x => x.text layout

namespace Json

def escapeChar (c : Char) : List Char :=
  match c with
  | '\x22' => ['\\', '\x22']
  | '\\' => ['\\', '\\']
  | '\x08' => ['\\', 'b']
  | '\x0c' => ['\\', 'f']
  | '\n' => ['\\', 'n']
  | '\r' => ['\\', 'r']
  | '\t' => ['\\', 't']
  | c => if c.toNat < 0x20 then ['\\', 'u'] ++ Text.hexPadded 4 c.toNat else [c]

def quote (text : String) : String :=
  String.ofList ('\x22' :: text.toList.flatMap escapeChar ++ ['\x22'])

mutual

def text : Json → String
  | .null => "null"
  | .bool true => "true"
  | .bool false => "false"
  | .number n => n.text
  | .string s => quote s
  | .array items => "[" ++ ",".intercalate (itemTexts items) ++ "]"
  | .object members => "\x7b" ++ ",".intercalate (memberTexts members) ++ "\x7d"

def itemTexts : List Json → List String
  | [] => []
  | x :: rest => x.text :: itemTexts rest

def memberTexts : List (String × Json) → List String
  | [] => []
  | (key, x) :: rest => (quote key ++ ":" ++ x.text) :: memberTexts rest

end

end Json

end Typewright
