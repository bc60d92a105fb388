/-
  Typewright/Package/Info.lean
  ============================
  **Package information** — what the manifest of the generated package says
  about it.
-/
import Typewright.Json.Basic

namespace Typewright

/-- A capability that the package may have. -/
inductive Feature where
  /-- Signed web tokens. -/
  | jwt
deriving DecidableEq

def Feature.text : Feature → String
  | .jwt => "jwt"

/-- What is said about the generated package. -/
structure PackageInfo where
  name : String := "generated-models"
  version : String := "0.1.0"
  authors : List String := ["modelgen"]
  homepage : Option String := none
  repository : Option String := none
  license : String := "Apache-2.0"
  description : String := "Rust models generated by modelgen"
  edition : String := "2021"
  features : List Feature := []
deriving DecidableEq

namespace PackageInfo

def hasFeature (info : PackageInfo) (feature : Feature) : Bool := info.features.contains feature

/-- The information as an object with all its fields. -/
def toJson (info : PackageInfo) : Json :=
  let optional (text : Option String) : Json := (text.map Json.string).getD .null
  .object
    [("name", .string info.name), ("version", .string info.version),
      ("authors", .array (info.authors.map .string)), ("homepage", optional info.homepage),
      ("repository", optional info.repository), ("license", .string info.license),
      ("description", .string info.description), ("edition", .string info.edition),
      ("features", .array (info.features.map fun feature => .string feature.text))]

end PackageInfo

end Typewright
