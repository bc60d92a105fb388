/-
  Typewright/Options.lean
  =======================
  **Options** — everything about the generated code that can be chosen.
-/
import Typewright.Package.Support
import Typewright.Render.Enum
import Typewright.Render.Struct
import Typewright.Render.Tuple

namespace Typewright

/-- The pieces of the generated text that may be replaced. -/
structure Hooks where
  structs : StructHooks := {}
  tuples : TupleHooks := {}
  enums : EnumHooks := {}
  package : PackageHooks := {}

structure Options where
  rules : NameRules := {}
  hooks : Hooks := {}
  /-- Whether structs get a constructor. -/
  constructors : Bool := false
  /-- Whether enumerations get a default value. -/
  enumDefaults : Bool := false
  /-- Whether the manifest and the package root are written beside the models. -/
  supportFiles : Bool := true
  info : PackageInfo := {}

/-! ### Texts of options -/

namespace Options

def switchText (on : Bool) : String := if on then "true" else "false"

def listText (items : List String) : String := "[" ++ ", ".intercalate items ++ "]"

def optionalText : Option String → String
  | some text => "Some(" ++ Text.Literal.quote text ++ ")"
  | none => "None"

def recordText (name : String) (fields : List (String × String)) (more : Bool) : String :=
  let fields := fields.map fun (key, value) => key ++ ": " ++ value
  name ++ " \x7b " ++ ", ".intercalate (fields ++ (if more then [".."] else [])) ++ " \x7d"

def featureText : Feature → String
  | .jwt => "Jwt"

def infoText (info : PackageInfo) : String :=
  recordText "PackageOptions"
    [("name", Text.Literal.quote info.name), ("version", Text.Literal.quote info.version),
      ("authors", listText (info.authors.map Text.Literal.quote)),
      ("homepage", optionalText info.homepage), ("repository", optionalText info.repository),
      ("license", Text.Literal.quote info.license),
      ("description", Text.Literal.quote info.description),
      ("edition", Text.Literal.quote info.edition),
      ("features", listText (info.features.map featureText))] false

/-- Options, for a reader of logs: rules and hooks are functions and left out. -/
def text (options : Options) : String :=
  recordText "RustOptions"
    [("render_initializer", switchText options.constructors),
      ("render_defaults", switchText options.enumDefaults),
      ("render_supporting_files", switchText options.supportFiles),
      ("package", infoText options.info)] true

end Options

end Typewright
