import Stencil.Path
import Stencil.Data.Value

/-!
# Components

A component is a named package of a main template and the resources beside it.  Most components are
kept in a directory.

## Main definitions

* `Stencil.Component` — a component, with the paths that it answers for.
* `Stencil.Component.Directory` — a component that is kept in a directory.
* `Stencil.Registry` — components by name.
-/

set_option relaxedAutoImplicit false
set_option autoImplicit false

namespace Stencil

/-- **A component.**  Where its main template is and where the references in its templates lead, it
says itself. -/
structure Component where
  /-- The name that templates include it by. -/
  name : String
  /-- The path of the main template, in any spelling. -/
  mainTemplate : Path
  /-- Where a reference in one of the component's templates leads. -/
  resolveResource : String → Path
  /-- Parameters that the parameters of an include are laid over. -/
  defaults : Option String := none

/-- **A component that is kept in a directory.** -/
structure Component.Directory where
  /-- The name that templates include it by. -/
  name : String
  /-- The directory of its resources. -/
  root : Path
  /-- The main template, as seen from that directory. -/
  main : String := "index.ejs"
  /-- Parameters that the parameters of an include are laid over. -/
  defaults : Option String := none
  deriving DecidableEq, Repr

namespace Component.Directory

/-- Where a reference in one of the component's templates leads. -/
def resolveResource (d : Directory) (reference : String) : Path :=
  if Path.isOnline reference then ⟨reference⟩ else (d.root.join reference).normalize

/-- The component of a directory. -/
def component (d : Directory) : Component where
  name := d.name
  mainTemplate := (d.root.join d.main).normalize
  resolveResource := d.resolveResource
  defaults := d.defaults

end Component.Directory

/-- **Components by name.** -/
structure Registry where
  /-- The components, each under its own name. -/
  entries : Fields Component := []

namespace Registry

/-- A registry with one more component, which replaces any other of its name. -/
def register (r : Registry) (c : Component) : Registry := ⟨r.entries.insert c.name c⟩

/-- The component of a name. -/
def find? (r : Registry) (name : String) : Option Component := r.entries.get? name

/-- The number of components. -/
def size (r : Registry) : Nat := r.entries.length

/-- A registered component is found under its name. -/
theorem find?_register (r : Registry) (c : Component) :
    (r.register c).find? c.name = some c := by
  simp [register, find?]

end Registry

end Stencil
