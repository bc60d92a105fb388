/-
  Typewright/Render/Model.lean
  ============================
  **Models** — the definition for a model or for what a model needs on the side.

  Objects become structs; sets of literals and values of several types become
  enumerations.  Single values and lists have no definition: a field that refers
  to one gets its type.
-/
import Typewright.Options

namespace Typewright.Options

/-! ### By form -/

def renderStruct (options : Options) (registry : Registry) (site : Site) : Rendered :=
  options.hooks.structs.render (.ofModel options.rules registry site.node) site
    options.constructors

def renderEnum (options : Options) (registry : Registry) (model : Node) : Rendered :=
  options.hooks.enums.render (.ofModel options.rules registry model) options.enumDefaults

def renderRecord (options : Options) (registry : Registry) (dependency : Dependency) : Rendered :=
  let scope : Scope :=
    { Scope.ofModel options.rules registry dependency.site.node with name := dependency.typeName }
  options.hooks.structs.render scope dependency.site options.constructors

def renderTuple (options : Options) (registry : Registry) (dependency : Dependency) : Rendered :=
  options.hooks.tuples.render (.ofParent options.rules registry dependency) dependency

/-! ### By kind -/

/-- The definition of a model; none, with a warning, for single values and
    lists. -/
def renderModel (options : Options) (registry : Registry) (site : Site) : Rendered :=
  let id := site.node.id.getD ""
  match site.node.kind with
  | .object => options.renderStruct registry site
  | .enumeration => options.renderEnum registry site.node
  | .union =>
    let rendered := options.renderEnum registry site.node
    { rendered with notices := .polymorphic id :: rendered.notices }
  | kind => { notices := [.notRendered kind id] }

/-- The definition of what a model needs on the side. -/
def renderDependency (options : Options) (registry : Registry) (dependency : Dependency) :
    Rendered :=
  match dependency.kind with
  | .tuple => options.renderTuple registry dependency
  | .record => options.renderRecord registry dependency

end Typewright.Options
