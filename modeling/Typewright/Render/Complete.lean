/-
  Typewright/Render/Complete.lean
  ===============================
  **Complete models** — a definition together with everything it needs on the
  side, each after what it needs itself.

  A name has one definition.  The first schema that asks for a name has it; if
  the same schema asks again nothing happens, and if another one does a warning
  says that it uses the definition of the first.

  What a definition needs is rendered in turn.  Where no list reaches itself,
  such a chain never meets a schema twice.  Otherwise it may meet one again under
  another name, and only a name that is taken ends it; so its bound doubles with
  every node and letter at hand, as do the names that can be put together from
  them.
-/
import Typewright.Render.Model

namespace Typewright

/-! ### Emission -/

/-- What has been rendered on the side so far. -/
structure Emission where
  /-- The names that are taken, each with the place of its schema. -/
  seen : List (String × Place) := []
  /-- The definitions, each after those it needs. -/
  definitions : List Rendered := []
  notices : List Notice := []

namespace Emission

def claim (state : Emission) (name : String) (place : Place) : Emission :=
  { state with seen := Keyed.put name place state.seen }

def report (state : Emission) (notices : List Notice) : Emission :=
  { state with notices := state.notices ++ notices }

def define (state : Emission) (rendered : Rendered) : Emission :=
  { state with definitions := state.definitions ++ [rendered] }

end Emission

namespace Options

/-- Renders one dependency unless its name is taken, given how to render what it
    needs. -/
def emitWith (options : Options) (registry : Registry)
    (emitAll : List Dependency → Emission → Emission) (state : Emission)
    (dependency : Dependency) : Emission :=
  match Keyed.get? dependency.typeName state.seen with
  | some place =>
    if place = dependency.site.place then state
    else
      state.report [.nameTaken dependency.typeName dependency.field dependency.parentName]
  | none =>
    let rendered := options.renderDependency registry dependency
    let state := (state.claim dependency.typeName dependency.site.place).report rendered.notices
    (emitAll rendered.dependencies.inlined state).define rendered

/-- Renders dependencies in order, and what they need, in chains of at most
    `fuel`. -/
def emitWithin (options : Options) (registry : Registry) :
    Nat → List Dependency → Emission → Emission
  | 0, _, state => state
  | fuel + 1, dependencies, state =>
    dependencies.foldl (options.emitWith registry (options.emitWithin registry fuel)) state

def total {α : Type} (weight : α → Nat) : List α → Nat
  | [] => 0
  | a :: rest => weight a + total weight rest

/-- The size of all that names are put together from. -/
def namingSize (registry : Registry) (dependencies : List Dependency) (state : Emission) : Nat :=
  registry.size
    + total (fun needed => needed.typeName.length + needed.site.node.size) dependencies
    + total (fun (name, _) => name.length) state.seen

/-- A bound on chains of dependencies: twice as many for every node and letter at
    hand. -/
def emitBudget (registry : Registry) (dependencies : List Dependency) (state : Emission) : Nat :=
  Nat.pow 2 (namingSize registry dependencies state + 1)

/-- Renders dependencies in order, each after what it needs. -/
def emit (options : Options) (registry : Registry) (dependencies : List Dependency)
    (state : Emission) : Emission :=
  options.emitWithin registry (emitBudget registry dependencies state) dependencies state

/-! ### Complete models -/

/-- The side definitions of a model that was rendered on its own. -/
def sideEmission (options : Options) (registry : Registry) (site : Site) (rendered : Rendered) :
    Emission :=
  options.emit registry rendered.dependencies.inlined { seen := [(rendered.name, site.place)] }

/-- The definition of a model after all that it needs on the side. -/
def renderComplete (options : Options) (registry : Registry) (site : Site) : Rendered :=
  let rendered := options.renderModel registry site
  if rendered.isEmpty || rendered.dependencies.inlined.isEmpty then rendered
  else
    let side := options.sideEmission registry site rendered
    let texts := side.definitions.map (·.text) ++ [rendered.text]
    { rendered with
      text := "\n\n".intercalate texts
      notices := rendered.notices ++ side.notices }

end Options

/-! ### All models -/

structure Source where
  /-- What the file holds; empty if there is nothing. -/
  name : String
  file : String
  text : String
  /-- The names of the generated types that are mentioned. -/
  uses : List String := []

def Rendered.toSource (rendered : Rendered) : Source :=
  ⟨rendered.name, rendered.file, rendered.text, rendered.dependencies.names⟩

namespace Options

def sources (definitions : List Rendered) : List Source :=
  (definitions.filter fun rendered => !rendered.isEmpty).map Rendered.toSource

def generate (options : Options) (registry : Registry) : List Source :=
  sources (registry.sites.map (options.renderModel registry))

/-- The models of a registry, each with all it needs on the side. -/
def generateComplete (options : Options) (registry : Registry) : List Source :=
  sources (registry.sites.map (options.renderComplete registry))

end Options

end Typewright
