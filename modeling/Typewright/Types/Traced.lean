/-
  Typewright/Types/Traced.lean
  ============================
  **Traced results** — a result together with what was met on the way to it: the
  names of generated types, the inner schemas that need a definition, and what
  is to be reported.

  Making a type changes nothing; the traces of several results are put one after
  the other.
-/
import Typewright.Schema.Notice
import Typewright.Types.Dependency

namespace Typewright

/-- A result and what was met on the way to it, each kind of finding in order. -/
structure Traced (α : Type) where
  value : α
  names : List String := []
  inlined : List Dependency := []
  notices : List Notice := []

namespace Traced

variable {α : Type}

instance : Monad Traced where
  pure value := { value }
  bind first next :=
    let second := next first.value
    { value := second.value
      names := first.names ++ second.names
      inlined := first.inlined ++ second.inlined
      notices := first.notices ++ second.notices }

def reporting (notice : Notice) (value : α) : Traced α := { value, notices := [notice] }

def mentioning (name : String) (value : α) : Traced α := { value, names := [name] }

/-- A result that mentions a type which is to be defined on the side. -/
def defining (dependency : Dependency) (value : α) : Traced α :=
  { value, names := [dependency.typeName], inlined := [dependency] }

def all (results : List (Traced α)) : Traced (List α) where
  value := results.map (·.value)
  names := results.flatMap (·.names)
  inlined := results.flatMap (·.inlined)
  notices := results.flatMap (·.notices)

/-- The dependencies after those met on the way to a result. -/
def addTo (traced : Traced α) (deps : Dependencies) : Dependencies :=
  traced.inlined.foldl Dependencies.addInlined (traced.names.foldl Dependencies.addName deps)

def dependencies (traced : Traced α) : Dependencies := traced.addTo {}

end Traced

end Typewright
