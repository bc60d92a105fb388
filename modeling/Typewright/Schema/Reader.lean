/-
  Typewright/Schema/Reader.lean
  =============================
  **Nodes straight from a text** — without reading the whole text first.

  A node is read from the left, so a value of the wrong shape is refused where
  it stands, before anything that is wrong further on.  The values of `type`,
  `items` and `additionalProperties` are the exception: they are read to their
  end before their shape is looked at.  What a shape must be is decided in
  `Typewright.Schema.Fields`.
-/
import Typewright.Json.Reader
import Typewright.Schema.Fields

namespace Typewright.Node

open Reader

def orFault {α : Type} : Except Mismatch α → Reader α
  | .ok a => return a
  | .error cause => throw (.mismatch cause)

/-- An array whose items must be texts, or whatever else stands there. -/
def textItems (depth : Nat) : Reader Json := do
  if (← token) ≠ some '[' then return ← scalar
  if depth = 0 then throw .malformed
  advance
  let found ← Reader.items [] fun taken => do
    match ← scalar with
    | .string s => return Json.string s :: taken
    | other => throw (.mismatch (.wrongType other "a string"))
  return .array found.reverse

/-- An array of any values, or whatever else stands there. -/
def anyItems (depth : Nat) : Reader Json := do
  if (← token) = some '[' then value depth else scalar

/-- Reads a node in which at most `depth` brackets are open at once. -/
def reader (depth : Nat) : Reader Node := do
  match ← token with
  | some '\x7b' =>
    match depth with
    | 0 => throw .malformed
    | depth + 1 =>
      advance
      let entries : Reader (Option (List (String × Node))) := do
        match ← token with
        | some '\x7b' =>
          match depth with
          | 0 => throw .malformed
          | depth + 1 =>
            advance
            some <$> Reader.members [] fun taken name => do
              colon
              return Keyed.put name (← reader depth) taken
        | _ => orFault (entriesOf (← scalar))
      let draft ← Reader.members ({} : Draft) fun draft name => do
        match Key.ofText? name with
        | none =>
          colon
          return draft.addExtra name (← value depth)
        | some key =>
          let draft ← orFault (draft.claim key)
          colon
          match key with
          | .properties =>
            return { draft with node := { draft.node with properties := ← entries } }
          | .patterns =>
            return { draft with node := { draft.node with patterns := ← entries } }
          | .id | .reference | .description => orFault (fill draft key (← scalar))
          | .required => orFault (fill draft key (← textItems depth))
          | .literals => orFault (fill draft key (← anyItems depth))
          | .type | .items | .additional | .default =>
            orFault (fill draft key (← value depth))
      return draft.node
  | _ => throw (.mismatch (.wrongType (← scalar) "struct ModelNode"))

def read (text : String) : Except ReadFault Node := (reader maxDepth).read text

end Typewright.Node
