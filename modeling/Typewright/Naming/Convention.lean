/-
  Typewright/Naming/Convention.lean
  =================================
  **Naming conventions** — how the names of a schema become identifiers.

  A name is cased, and escaped by the mark `reserved_` if the result could not
  stand as an identifier: if it is empty, starts with neither letter nor `_`, or
  is a reserved word.  A name of punctuation alone is spelled out first.  The
  empty name stands for a missing one and stays empty.

  A `Convention` is a record of five functions, and every field has the rule of
  this module as its default.
-/
import Typewright.Naming.Reserved
import Typewright.Schema.Registry
import Typewright.Text.Spelling
import Typewright.Text.Words

namespace Typewright

open Text (pascalCase snakeCase spellOut)

/-! ### Identifiers -/

/-- What stands before a name that could not be used as it is. -/
def escapeMark : String := "reserved_"

/-- Whether a name starts like an identifier: with a letter or `_`. -/
def startsIdentifier (name : String) : Bool :=
  match name.toList with
  | [] => false
  | c :: _ => Text.isLetter c || c == '_'

/-- A name as an identifier in the casing `convert`. -/
def identifier (convert : String → String) (isReserved : String → Bool) (name : String) : String :=
  if name = "" then ""
  else
    let cased := convert name
    let cased := if cased = "" then convert (spellOut name) else cased
    if startsIdentifier cased && !isReserved cased then cased else convert (escapeMark ++ cased)

/-! ### Names that are free -/

namespace Node

/-- Puts marks before a name while it is a declared property, at most `fuel` of
    them. -/
def escapeProperty (node : Node) : Nat → String → String
  | 0, name => name
  | fuel + 1, name =>
    if node.hasProperty name then escapeProperty node fuel (escapeMark ++ name) else name

/-- The name `base` after as many marks as make it differ from every declared
    property.  Each try is longer than those before it, so at most one try fails
    for each property. -/
def uniqueProperty (node : Node) (base : String) : String :=
  node.escapeProperty (node.properties.getD []).length base

end Node

/-! ### Conventions -/

/-- What is known where a name is made. -/
structure NameContext where
  /-- The model that the name belongs to. -/
  model : Node := {}
  registry : Registry := {}
  /-- The field that is named, if it is one. -/
  field : Option Node := none
  isReserved : String → Bool := isReservedWord

namespace NameContext

def typeName (context : NameContext) (name : String) : String :=
  identifier pascalCase context.isReserved name

def fieldName (context : NameContext) (name : String) : String :=
  identifier snakeCase context.isReserved name

def moduleName (context : NameContext) (name : String) : String :=
  identifier snakeCase context.isReserved name

/-- The name of the variant for a literal, after the name of its model.
    Punctuation is spelled out, which keeps `-1` apart from `1`. -/
def enumMember (context : NameContext) (name : String) : String :=
  let owner := context.model.id.getD "EnumMember"
  let cased := pascalCase (owner ++ "_" ++ pascalCase (spellOut name))
  if startsIdentifier cased then cased else pascalCase (escapeMark ++ cased)

/-- The name for values of additional properties; empty in a model without an
    identifier. -/
def additionalType (context : NameContext) : String :=
  match context.model.id with
  | none => ""
  | some id =>
    identifier pascalCase context.isReserved
      (id ++ pascalCase (context.model.uniqueProperty "additionalProperties"))

end NameContext

structure Convention where
  typeName : NameContext → String → String := NameContext.typeName
  fieldName : NameContext → String → String := NameContext.fieldName
  moduleName : NameContext → String → String := NameContext.moduleName
  enumMember : NameContext → String → String := NameContext.enumMember
  additionalType : NameContext → String := NameContext.additionalType

end Typewright
