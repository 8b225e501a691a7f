import Stencil.Component
import Stencil.Data.Yaml.Reader
import Stencil.Template.Options

/-!
# Project files

A project file sets the options and names the components of the templates beside it.

## Main definitions

* `Stencil.Project` — options and components.
* `Stencil.Project.ofText?` — the project that a file spells out.
-/

set_option relaxedAutoImplicit false
set_option autoImplicit false

namespace Stencil

/-- **Options and components.** -/
structure Project where
  /-- The options. -/
  options : Options := {}
  /-- The components. -/
  components : Registry := {}

namespace Project

/-- The entries of a mapping; none where nothing is written. -/
def entries? : Yaml → Option (List (String × Yaml))
  | .mapping entries => some entries
  | .scalar s plain => if plain && s.isEmpty then some [] else none
  | .list _ => none

/-- The entries of a node with named fields: each has one of the names, and none is repeated. -/
def fields? (names : List String) (node : Yaml) : Option (List (String × Yaml)) := do
  let entries ← entries? node
  let keys := entries.map Prod.fst
  if keys.all names.contains && decide keys.Nodup then return entries else none

/-- A field as a text, where nothing stands for its absence. -/
def optionalText? (node : Yaml) : Option (Option String) :=
  if node.isNull then some none else node.text?.map some

/-- A setting as a value.  Settings that are texts take any scalar as it is written. -/
def setting? (name : String) (node : Yaml) : Option Value :=
  if name = "delimiter" then node.text?.map .text
  else if name = "source-path" then (optionalText? node).map fun s => (s.map .text).getD .null
  else node.toValue?

/-- The options that a node spells out. -/
def options? (node : Yaml) : Option Options := do
  let entries ← fields? Options.names node
  let settings ← entries.mapM fun (name, node) => (setting? name node).map fun v => (name, v)
  Options.ofFields? settings

/-- A component of a directory; its root has to be given. -/
def component? (base : Path) (name : String) (node : Yaml) : Option Component := do
  let entries ← fields? ["root", "main", "defaults"] node
  let field := fun name => entries.lookup name
  let root ← (← field "root").text?
  let main ← ((field "main").map optionalText?).getD (some none)
  let defaults ← ((field "defaults").map optionalText?).getD (some none)
  let d : Component.Directory := { name, root := base.join root, defaults }
  return ((main.map fun main => { d with main }).getD d).component

/-- The components of a directory. -/
def components? (base : Path) (node : Yaml) : Option Registry := do
  let entries ← entries? node
  let components ← entries.mapM fun (name, node) => component? base name node
  return components.foldl Registry.register {}

/-- The project that a node spells out, for a directory. -/
def ofYaml? (base : Path) (node : Yaml) : Option Project := do
  let entries ← fields? ["options", "components"] node
  let options ← ((entries.lookup "options").map options?).getD (some {})
  let components ← ((entries.lookup "components").map (components? base)).getD (some {})
  return { options, components }

/-- **The project that a file spells out.**  The roots of its components are taken from the
directory of the file. -/
def ofText? (path : Path) (text : String) : Option Project :=
  (Yaml.read? text).bind (ofYaml? (path.parent?.getD ⟨"."⟩))

end Project

end Stencil
