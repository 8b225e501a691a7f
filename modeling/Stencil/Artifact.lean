import Stencil.Data.Json.Printer
import Stencil.Template.Compiled

/-!
# Artifacts

A compiled template together with its options: all that rendering needs besides the data.

## Main definitions

* `Stencil.Artifact` — a compiled template.
* `Stencil.Workspace.artifact` — the artifact of a template text.
* `Stencil.Artifact.source` — the artifact as the body of a function.
* `Stencil.Artifact.report` — where the template's references lead, as a document.
* `Stencil.prebuild` — a template without its directives as the body of a function, for build tools.
-/

set_option relaxedAutoImplicit false
set_option autoImplicit false

namespace Stencil

/-- **A compiled template.** -/
structure Artifact where
  /-- The program. -/
  program : Program
  /-- The options that it was compiled with. -/
  options : Options
  /-- The template that it was compiled from. -/
  origin : Origin
  /-- Where includes and asset references lead. -/
  dependencies : List Path
  /-- The assets. -/
  assets : Assets

/-- The name that is shown for a template without a path. -/
def anonymousName : String := "ejs"

/-- **The artifact of a template text.** -/
def Workspace.artifact (w : Workspace) (options : Options) (text : String) :
    Except CompileError Artifact :=
  (w.compile options text).map fun c =>
    { program := c.program
      options := options
      origin := ⟨(options.sourcePath.map Path.text).getD anonymousName, c.text⟩
      dependencies := c.dependencies
      assets := c.assets }

namespace Artifact

/-! ## Generated code -/

/-- The body of the generated function, where lines are not tracked. -/
def body (a : Artifact) : String :=
  let listing := a.program.listing
  "  var __output = [], __append = __output.push.bind(__output);\n" ++
    "  var includeAtarray = [];\n" ++
    (if a.options.strictLocals then "  with (locals || \x7b\x7d) \x7b\n" ++ listing ++ "  \x7d\n"
      else listing) ++
    "  return \x7b output: __output.join(\"\"), extractedBlocks: includeAtarray \x7d;\n"

/-- **The generated function's body.**  Where lines are tracked, a failure in it is reported with
the line that it has come to. -/
def source (a : Artifact) : String :=
  if a.options.diagnostics then
    let filename := (a.options.sourcePath.map fun p => Json.quote p.text).getD "undefined"
    "var __line = 1\n  , __lines = " ++ Json.quote a.origin.text ++ "\n  , __filename = " ++
      filename ++ ";\ntry \x7b\n" ++ a.body ++
      "\x7d catch (e) \x7b\n  rethrow(e, __lines, __filename, __line);\n\x7d\n"
  else a.body

/-! ## Dependencies -/

/-- A path in a document. -/
def pathValue (p : Path) : Value := .text p.text

/-- An asset in a document. -/
def assetValue (a : Asset) : Value :=
  .object [("component", (a.component.map Value.text).getD .null), ("resourceName", .text a.name),
    ("resourcePath", pathValue a.path)]

/-- **Where the template's references lead,** as a document with its members in the order in which
they are written. -/
def report (a : Artifact) : Value :=
  .object [("sourcePath", (a.options.sourcePath.map pathValue).getD .null),
    ("dependencies", .list (a.dependencies.map pathValue)),
    ("scriptDependencies", .list (a.assets.scripts.map assetValue)),
    ("styleDependencies", .list (a.assets.styles.map assetValue)),
    ("imageDependencies", .list (a.assets.images.map assetValue))]

end Artifact

/-- **A template without its directives as the body of a function** that gathers its output and
gives it back.  Lines are not tracked. -/
def prebuild (options : Options) (text : String) : Except CompileError String :=
  let t := Template.ofText { options with diagnostics := false } text
  t.withoutDirectives.map fun program =>
    "  var tempContent = [], __append = function (n) \x7b tempContent.push(n) \x7d;\n" ++
      "  with ($TemplateData || \x7b\x7d) \x7b\n" ++ program.listing ++ "  \x7d\n" ++
      "  return tempContent.join('');\n"

end Stencil
