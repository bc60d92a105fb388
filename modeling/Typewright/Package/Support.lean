/-
  Typewright/Package/Support.lean
  ===============================
  **Supporting files** — the manifest of the generated package, and its root,
  which makes every module public.

  `PackageHooks` is a record of the two texts, so that they may be replaced.
-/
import Typewright.Package.Info
import Typewright.Text.Quoted
import Typewright.Types.Scope

namespace Typewright

open Text (BasicString.quote)

def manifestLine (key value : String) : String := key ++ " = " ++ BasicString.quote value ++ "\n"

namespace PackageInfo

def manifest (info : PackageInfo) : String :=
  let optional (key : String) (value : Option String) : String :=
    (value.map (manifestLine key)).getD ""
  let jwt := info.hasFeature .jwt
  "[package]\n" ++ manifestLine "name" info.name ++ manifestLine "version" info.version
    ++ "authors = [" ++ ", ".intercalate (info.authors.map BasicString.quote) ++ "]\n"
    ++ optional "homepage" info.homepage ++ optional "repository" info.repository
    ++ manifestLine "license" info.license ++ manifestLine "description" info.description
    ++ manifestLine "edition" info.edition
    ++ "\n[dependencies]\n"
    ++ "serde = \x7b version = \"1\", features = [\"derive\"] \x7d\n"
    ++ "serde_json = \"1\"\n"
    ++ (if jwt then "jsonwebtoken = \x7b version = \"7\", optional = true \x7d\n" else "")
    ++ "\n[features]\n"
    ++ (if jwt then "default = [\"jwt\"]\njwt = [\"dep:jsonwebtoken\"]" else "default = []")

end PackageInfo

namespace NameRules

def moduleName (rules : NameRules) (name : String) : String :=
  rules.convention.moduleName (rules.context {} {}) name

/-- The text of the package root: every module is declared, and what it holds is
    made public. -/
def crateRoot (rules : NameRules) (names : List String) : String :=
  let declare (name : String) : String :=
    let module := rules.moduleName name
    "pub mod " ++ module ++ ";\npub use self::" ++ module ++ "::*;"
  "\n\n".intercalate
    ("#[macro_use]\nextern crate serde;\nextern crate serde_json;" :: names.map declare)

end NameRules

structure PackageHooks where
  manifest : PackageInfo → String := PackageInfo.manifest
  /-- The package root for types with the given names. -/
  crateRoot : NameRules → List String → String := NameRules.crateRoot

end Typewright
