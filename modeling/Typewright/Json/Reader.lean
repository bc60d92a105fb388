/-
  Typewright/Json/Reader.lean
  ===========================
  **Reading JSON** — from the left, character by character; the first problem
  ends the reading.

  A `Reader` takes characters off the front of the rest of the text.  Small
  readers are put together: blanks, words, numbers, strings, the commas of
  arrays and objects, whole values.  A caller that knows the shape it wants
  reads the parts itself, and so can refuse a value before its end is reached.

  Every step of a loop takes a character at least, so a loop is bounded by the
  text that is left when it starts.  Brackets nest at most 127 deep: `value` takes
  the depth that is left.
-/
import Typewright.Json.Fault

namespace Typewright

/-- A reader of a part of a text: its result and the rest of the text. -/
abbrev Reader := StateT (List Char) (Except ReadFault)

namespace Reader

/-! ### Characters -/

def isSpace (c : Char) : Bool := c == ' ' || c == '\n' || c == '\t' || c == '\r'

/-- The next character that is not blank; it stays in the text. -/
def token : Reader (Option Char) := do
  modify (·.dropWhile isSpace)
  return (← get).head?

def advance : Reader Unit := modify (·.drop 1)

def next : Reader Char := do
  match ← get with
  | [] => throw .truncated
  | c :: rest => set rest; return c

def expect : List Char → Reader Unit
  | [] => return
  | c :: rest => do
    if (← next) == c then expect rest else throw .malformed

/-! ### Numbers -/

def digits : Reader (List Char) := do
  let (taken, rest) := (← get).span Char.isDigit
  set rest
  return taken

def digitValue (c : Char) : Nat := c.toNat - '0'.toNat

/-- The number that digits add to a significand of 64 bits, and how many of them
    fit; from the first that does not fit, all are left out. -/
def absorb (significand : Nat) : List Char → Nat × Nat
  | [] => (significand, 0)
  | c :: rest =>
    let longer := 10 * significand + digitValue c
    if longer < Nat.pow 2 64 then
      let (result, kept) := absorb longer rest
      (result, kept + 1)
    else (significand, 0)

structure Numeral where
  negative : Bool
  whole : List Char
  fraction : Option (List Char)
  power : Option Int

/-- The number a numeral stands for: a whole number if it is written as one and
    fits 64 bits, else the double; `-0` is a double.  `none` if out of range. -/
def Numeral.value (n : Numeral) : Option JsonNumber :=
  let (significand, kept) := absorb 0 n.whole
  let dropped := n.whole.length - kept
  if n.fraction.isNone ∧ n.power.isNone ∧ dropped = 0 ∧
      (!n.negative ∨ (0 < significand ∧ significand ≤ Nat.pow 2 63)) then
    some (.whole (if n.negative then -(significand : Int) else significand))
  else
    let (significand, places) := absorb significand (n.fraction.getD [])
    let power := (dropped : Int) - places + n.power.getD 0
    (Number.Binary64.ofScientific n.negative significand power).map .real

/-- One digit at least; the end of the text is the fault `atEnd`. -/
def someDigits (atEnd : ReadFault) : Reader (List Char) := do
  let taken ← digits
  if taken.isEmpty then throw (if (← get).isEmpty then atEnd else .malformed)
  return taken

/-- A numeral after its minus sign, if it has one. -/
def numeral (negative : Bool) (atEnd : ReadFault) : Reader Numeral := do
  let whole ← someDigits atEnd
  if 1 < whole.length ∧ whole.head? = some '0' then throw .malformed
  let fraction ← if (← get).head? = some '.' then
      advance
      some <$> someDigits atEnd
    else pure none
  let power ← match (← get).head? with
    | some 'e' | some 'E' => do
      advance
      let minus := (← get).head? = some '-'
      if minus ∨ (← get).head? = some '+' then advance
      let magnitude := (← someDigits atEnd).foldl (fun n c => 10 * n + digitValue c) 0
      pure (some (if minus then -(magnitude : Int) else magnitude))
    | _ => pure none
  return ⟨negative, whole, fraction, power⟩

/-! ### Strings -/

def hexValue (c : Char) : Option Nat :=
  if c.isDigit then some (c.toNat - '0'.toNat)
  else if 'a' ≤ c ∧ c ≤ 'f' then some (c.toNat - 'a'.toNat + 10)
  else if 'A' ≤ c ∧ c ≤ 'F' then some (c.toNat - 'A'.toNat + 10)
  else none

/-- Four hexadecimal digits.  A text with less than four bytes left is truncated. -/
def hexUnit : Reader Nat := do
  let taken := (← get).take 4
  if taken.foldl (fun n c => n + c.utf8Size) 0 < 4 then throw .truncated
  modify (·.drop 4)
  match taken.mapM hexValue with
  | some values => return values.foldl (fun n v => 16 * n + v) 0
  | none => throw .malformed

/-- The character of a `\u` escape.  A unit of a surrogate pair needs the other
    one right after it. -/
def unicodeEscape : Reader Char := do
  let high ← hexUnit
  if 0xdc00 ≤ high ∧ high ≤ 0xdfff then throw .malformed
  if high < 0xd800 ∨ 0xdbff < high then return Char.ofNat high
  expect ['\\', 'u']
  let low ← hexUnit
  if low < 0xdc00 ∨ 0xdfff < low then throw .malformed
  return Char.ofNat ((high - 0xd800) * 0x400 + (low - 0xdc00) + 0x10000)

/-- The character of an escape, after its backslash; `unicode` reads one that is
    given by code. -/
def escape (unicode : Reader Char) : Reader Char := do
  match ← next with
  | '\x22' => return '\x22'
  | '\\' => return '\\'
  | '/' => return '/'
  | 'b' => return '\x08'
  | 'f' => return '\x0c'
  | 'n' => return '\n'
  | 'r' => return '\r'
  | 't' => return '\t'
  | 'u' => unicode
  | _ => throw .malformed

/-- The characters of a string up to its closing quote, which is taken too.
    `taken` holds those read, the last first. -/
def stringLoop (unicode : Reader Char) : (bound : List Char) → (taken : List Char) → Reader String
  | [], _ => throw .truncated
  | _ :: bound, taken => do
    match ← next with
    | '\x22' => return String.ofList taken.reverse
    | '\\' => stringLoop unicode bound ((← escape unicode) :: taken)
    | c => if c.toNat < 0x20 then throw .malformed else stringLoop unicode bound (c :: taken)

def stringBody (unicode : Reader Char) : Reader String := do stringLoop unicode (← get) []

/-! ### Arrays and objects -/

/-- Whether another item of an array follows.  A comma before it is taken; the
    closing bracket stays. -/
def hasItem (first : Bool) : Reader Bool := do
  match ← token with
  | none => throw .truncated
  | some ']' => return false
  | some c =>
    if first then return true
    if c != ',' then throw .malformed
    advance
    match ← token with
    | none => throw .truncated
    | some ']' => throw .malformed
    | some _ => return true

/-- Whether another member of an object follows.  A comma before it is taken;
    the closing brace or the quote of the key stays. -/
def hasMember (first : Bool) : Reader Bool := do
  match ← token with
  | none => throw .truncated
  | some '\x7d' => return false
  | some c =>
    let start ← if first then pure (some c) else
      if c != ',' then throw .malformed
      advance
      token
    match start with
    | none => throw .truncated
    | some '\x22' => return true
    | some _ => throw .malformed

def colon : Reader Unit := do
  match ← token with
  | none => throw .truncated
  | some ':' => advance
  | some _ => throw .malformed

/-- Reads items up to the closing bracket, which is taken too. -/
def itemsLoop {σ : Type} (item : σ → Reader σ) : (bound : List Char) → Bool → σ → Reader σ
  | [], _, _ => throw .truncated
  | _ :: bound, first, state => do
    if ← hasItem first then itemsLoop item bound false (← item state)
    else
      advance
      return state

def items {σ : Type} (init : σ) (item : σ → Reader σ) : Reader σ := do
  itemsLoop item (← get) true init

/-- Reads members up to the closing brace, which is taken too. -/
def membersLoop {σ : Type} (unicode : Reader Char) (member : σ → String → Reader σ) :
    (bound : List Char) → Bool → σ → Reader σ
  | [], _, _ => throw .truncated
  | _ :: bound, first, state => do
    if ← hasMember first then
      advance
      let key ← stringBody unicode
      membersLoop unicode member bound false (← member state key)
    else
      advance
      return state

/-- The members of an object after its opening brace; `member` reads from the
    end of a key on, colon included. -/
def members {σ : Type} (init : σ) (member : σ → String → Reader σ) : Reader σ := do
  membersLoop unicodeEscape member (← get) true init

/-! ### Values -/

/-- A value without parts.  Of an array or object only the bracket is seen: it
    stays in the text and the empty one is returned. -/
def scalar : Reader Json := do
  match ← token with
  | none => throw .truncated
  | some 'n' => advance; expect ['u', 'l', 'l']; return .null
  | some 't' => advance; expect ['r', 'u', 'e']; return .bool true
  | some 'f' => advance; expect ['a', 'l', 's', 'e']; return .bool false
  | some '\x22' => advance; return .string (← stringBody unicodeEscape)
  | some '[' => return .array []
  | some '\x7b' => return .object []
  | some c =>
    if c == '-' then advance
    else if !c.isDigit then throw .malformed
    match (← numeral (c == '-') .truncated).value with
    | some n => return .number n
    | none => throw .malformed

def maxDepth : Nat := 127

/-- A whole value in which at most `depth` brackets are open at once.  Keys are
    kept as written, equal ones too. -/
def value (depth : Nat) : Reader Json := do
  match ← token with
  | some '[' =>
    match depth with
    | 0 => throw .malformed
    | depth + 1 =>
      advance
      let found ← items [] fun taken => return (← value depth) :: taken
      return .array found.reverse
  | some '\x7b' =>
    match depth with
    | 0 => throw .malformed
    | depth + 1 =>
      advance
      let found ← members [] fun taken key => do
        colon
        return (key, ← value depth) :: taken
      return .object found.reverse
  | _ => scalar

/-- Passes over a value without looking at what its numbers and escapes stand
    for. -/
def skip : (bound : List Char) → Reader Unit
  | [] => throw .truncated
  | _ :: bound => do
    let anyEscape : Reader Char := do
      let _ ← hexUnit
      return ' '
    match ← token with
    | some '[' =>
      advance
      items () fun _ => skip bound
    | some '\x7b' =>
      advance
      membersLoop anyEscape (fun _ _ => do colon; skip bound) (← get) true ()
    | some '\x22' =>
      advance
      let _ ← stringBody anyEscape
    | some c =>
      if c == '-' || c.isDigit then
        if c == '-' then advance
        let _ ← numeral false .malformed
      else
        let _ ← scalar
    | none => throw .truncated

def skipValue : Reader Unit := do skip (← get)

def read {α : Type} (reader : Reader α) (text : String) : Except ReadFault α := do
  let (result, rest) ← reader.run text.toList
  if (rest.dropWhile isSpace).isEmpty then return result else throw .malformed

end Reader

/-- The value of a text, every key of an object once. -/
def Json.read (text : String) : Except ReadFault Json :=
  Json.mergeKeys <$> (Reader.value Reader.maxDepth).read text

end Typewright
