/-
  Typewright/Package/Reader.lean
  ==============================
  **Package information from a text** — an object, or an array of the fields in
  their order.

  A field that is not given keeps its default.  Keys without a meaning are
  passed over, and a field given twice is refused.  As for nodes, the first
  problem from the left ends the reading.
-/
import Typewright.Json.Reader
import Typewright.Package.Info

namespace Typewright.PackageInfo

open Reader

inductive Key where
  | name
  | version
  | authors
  | homepage
  | repository
  | license
  | description
  | edition
  | features
deriving DecidableEq

def Key.text : Key → String
  | .name => "name"
  | .version => "version"
  | .authors => "authors"
  | .homepage => "homepage"
  | .repository => "repository"
  | .license => "license"
  | .description => "description"
  | .edition => "edition"
  | .features => "features"

def Key.all : List Key :=
  [.name, .version, .authors, .homepage, .repository, .license, .description, .edition, .features]

def Key.ofText? (text : String) : Option Key := Key.all.find? (·.text == text)

/-! ### Values -/

def plainText : Reader String := do
  match ← scalar with
  | .string s => return s
  | other => throw (.mismatch (.wrongType other "a string"))

def optionalText : Reader (Option String) := do
  match ← scalar with
  | .null => return none
  | .string s => return some s
  | other => throw (.mismatch (.wrongType other "a string"))

def listOf {α : Type} (item : Reader α) : Reader (List α) := do
  match ← token with
  | some '[' =>
    advance
    let found ← Reader.items [] fun taken => return (← item) :: taken
    return found.reverse
  | _ => throw (.mismatch (.wrongType (← scalar) "a sequence"))

def featureNamed (name : String) : Reader Feature :=
  if name = Feature.jwt.text then return .jwt
  else throw (.mismatch (.unknownVariant name Feature.jwt.text))

def featureName : Reader Feature := do
  match ← token with
  | none => throw .truncated
  | some '\x22' => featureNamed (← plainText)
  | some _ => throw .malformed

/-- A feature: its name, or an object with its name as the one key and `null` as
    the value. -/
def feature : Reader Feature := do
  match ← token with
  | some '\x7b' =>
    advance
    let found ← featureName
    colon
    match ← scalar with
    | .null => pure ()
    | other => throw (.mismatch (.wrongType other "unit"))
    match ← token with
    | none => throw .truncated
    | some '\x7d' => advance; return found
    | some _ => throw .malformed
  | _ => featureName

def fill (info : PackageInfo) : Key → Reader PackageInfo
  | .name => return { info with name := ← plainText }
  | .version => return { info with version := ← plainText }
  | .authors => return { info with authors := ← listOf plainText }
  | .homepage => return { info with homepage := ← optionalText }
  | .repository => return { info with repository := ← optionalText }
  | .license => return { info with license := ← plainText }
  | .description => return { info with description := ← plainText }
  | .edition => return { info with edition := ← plainText }
  | .features => return { info with features := ← listOf feature }

/-! ### Fields by name and by place -/

def byName : Reader PackageInfo := do
  let (info, _) ← Reader.members (({}, []) : PackageInfo × List Key) fun (info, seen) name => do
    match Key.ofText? name with
    | none =>
      colon
      skipValue
      return (info, seen)
    | some key =>
      if seen.contains key then throw (.mismatch (.duplicateField key.text))
      colon
      return (← info.fill key, key :: seen)
  return info

/-- Reads items into the given fields; those left keep what they have. -/
def fillInOrder (first : Bool) (info : PackageInfo) : List Key → Reader PackageInfo
  | [] => return info
  | key :: rest => do
    if ← hasItem first then fillInOrder false (← info.fill key) rest else return info

/-- Reads the items of an array, which must end after the last field. -/
def byPlace : Reader PackageInfo := do
  let info ← fillInOrder true {} Key.all
  match ← token with
  | none => throw .truncated
  | some ']' => advance; return info
  | some _ => throw .malformed

def reader : Reader PackageInfo := do
  match ← token with
  | some '\x7b' => advance; byName
  | some '[' => advance; byPlace
  | _ => throw (.mismatch (.wrongType (← scalar) "struct PackageOptions"))

def read (text : String) : Except ReadFault PackageInfo := reader.read text

end Typewright.PackageInfo
