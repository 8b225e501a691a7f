import Stencil.Asset
import Stencil.CompileError
import Stencil.Library
import Stencil.Template.Directive
import Stencil.Template.Marker
import Stencil.Template.Mode
import Stencil.Template.Whitespace

/-!
# Compiled templates

A template is compiled in one pass over its segments.  Directives are followed: an include compiles
the template that it names and takes its program over, inside a scope of its own.

## Main definitions

* `Stencil.Workspace` — what includes read through.
* `Stencil.Template` — a template as it is compiled, with the chain of includes that led to it.
* `Stencil.Pass` — what one pass has gathered, and `Stencil.Pass.segments`, the pass itself.
* `Stencil.Compiled` — what compiling produces.
* `Stencil.Template.expand`, `Stencil.Workspace.compile` — compiling, with every directive followed.

## Design

The pass does not know how directives are followed; it is given a function for that, which may fail.
`Template.follow` is such a function, and is itself given one that compiles an included template.
`Template.expand` ties the knot.  A template on the chain of includes is never entered again, but
the chain is told by the spellings of paths, and a library need not be finite.  So includes may be
nested without end, and are followed only as deep as the workspace allows.
-/

set_option relaxedAutoImplicit false
set_option autoImplicit false

namespace Stencil

/-- **What includes read through.** -/
structure Workspace where
  /-- The templates. -/
  library : Library
  /-- The component of a name, or why there is none. -/
  lookup : String → Except CompileError Component
  /-- How many templates may be nested in each other. -/
  depth : Nat := Decimal.twoPow 60

/-- The component of a name, or the error of a name without any. -/
def Registry.lookup (r : Registry) (name : String) : Except CompileError Component :=
  match r.find? name with
  | some c => .ok c
  | none => .error (.unknownComponent name)

/-- **What compiling produces.** -/
structure Compiled where
  /-- The program. -/
  program : Program
  /-- The text of the template, in normal form. -/
  text : String
  /-- Where includes and asset references lead, in the order of the directives. -/
  dependencies : List Path
  /-- The assets. -/
  assets : Assets

/-! ## Templates -/

/-- **A template as it is compiled.** -/
structure Template where
  /-- The text, in normal form. -/
  text : String
  /-- The options. -/
  options : Options
  /-- The component that owns the template. -/
  component : Option Component := none
  /-- The templates that are being compiled, outermost first; this one is the last. -/
  chain : List Path.Normal := []

namespace Template

/-- A template that is compiled by itself. -/
def ofText (options : Options) (text : String) : Template where
  text := Whitespace.normalize options.delimiter options.trimWhitespace text
  options := options
  chain := (options.sourcePath.map Path.toNormal).toList

/-- A template that another includes.  The component that owns the other owns it too, unless it
comes from a component itself. -/
def including (t : Template) (path : Path) (component : Option Component) (text : String) :
    Template where
  text := Whitespace.normalize t.options.delimiter t.options.trimWhitespace text
  options := t.options.forInclude path
  component := component.or t.component
  chain := t.chain ++ [path.toNormal]

/-- Whether a path is that of a template on the chain.  The chain is in normal spelling; the path is
taken as it is spelled. -/
def isActive (t : Template) (path : Path) : Bool := t.chain.any (·.path.same path)

/-- The error of an opening tag that nothing closes. -/
def unclosed (t : Template) (s : Segment) : CompileError :=
  .unclosedTag ⟨s.text, s.offset, t.options.sourcePath, t.text⟩

end Template

/-! ## The pass -/

/-- **What a pass has gathered.** -/
structure Pass where
  /-- The instructions. -/
  program : Program := []
  /-- The mode and the line that the pass has come to. -/
  reader : Reader := {}
  /-- The assets. -/
  collector : Collector := {}
  /-- Where includes and asset references lead. -/
  dependencies : List Path := []

namespace Pass

/-- More instructions. -/
def emit (p : Pass) (program : Program) : Pass := { p with program := p.program ++ program }

/-- One more dependency. -/
def depend (p : Pass) (path : Path) : Pass := { p with dependencies := p.dependencies ++ [path] }

/-- An included template, inside a scope of its own. -/
def splice (p : Pass) (params : List String) (isolated : Bool) (path : Path)
    (inner : Compiled) : Pass where
  program := p.program ++
    .enterScope ⟨params, isolated, some ⟨path.text, inner.text⟩⟩ ::
      inner.program ++ [.exitScope]
  reader := p.reader
  collector := p.collector.merge inner.assets
  dependencies := p.dependencies ++ inner.dependencies

/-- A segment that is no directive. -/
def scan (p : Pass) (options : Options) (s : Segment) : Pass :=
  let (reader, program) := p.reader.scan options s
  { p.emit program with reader }

/-- The lines of a segment that was a directive. -/
def advance (p : Pass) (options : Options) (s : Segment) : Pass :=
  let (reader, program) := p.reader.advance options s.newlines
  { p.emit program with reader }

/-- The directive that a segment is behind a tag, if it is one. -/
def directive? (before : Option Tag) (s : Segment) : Option Directive :=
  if s.tag.isNone && before.any Tag.acceptsDirective then Directive.parse? s.text else none

/-- One segment, behind a tag or a literal. -/
def segment (options : Options) (follow : Directive → Pass → Except CompileError Pass)
    (before : Option Tag) (p : Pass) (s : Segment) : Except CompileError Pass :=
  match directive? before s with
  | some d => (follow d p).map fun p => p.advance options s
  | none => .ok (p.scan options s)

/-- Whether an opening tag is closed behind the one segment that it opens for. -/
def isClosed (behind : List Segment) : Bool :=
  (behind[1]?.bind Segment.tag).any Tag.isCloser

/-- **All segments.**  An opening tag has to be closed; otherwise nothing is made of the
template. -/
def segments (t : Template) (follow : Directive → Pass → Except CompileError Pass) :
    Option Tag → Pass → List Segment → Except CompileError Pass
  | _, p, [] => .ok p
  | before, p, s :: behind =>
    if s.tag.any Tag.isOpener && !isClosed behind then .error (t.unclosed s)
    else do
      let p ← p.segment t.options follow before s
      segments t follow s.tag p behind

end Pass

namespace Template

/-- The pass over a template. -/
def pass (t : Template) (follow : Directive → Pass → Except CompileError Pass) (start : Pass) :
    Except CompileError Pass :=
  (Segment.splitChecked t.options.delimiter t.text).bind (start.segments t follow none)

/-! ## Directives -/

/-- How an included template is compiled, given its path and the component it comes from. -/
abbrev Nested := Path → Option Component → Except CompileError Compiled

/-- `include`: another template, which sees the names of this one unless it is given
parameters. -/
def includeFile (t : Template) (w : Workspace) (nested : Nested) (reference : String)
    (params : Option String) (p : Pass) : Except CompileError Pass :=
  match t.options.sourcePath with
  | none => .error (.missingPath "include")
  | some current => do
    let target := w.library.resolve reference current
    let inner ← nested target none
    return (p.splice params.toList params.isSome target inner).depend target

/-- The remark at one end of a component in the output. -/
def moduleRemark (word name : String) : Instruction :=
  .append ("\r\n <!--module " ++ word ++ ":" ++ name ++ "-->")

/-- `includeModule`: the main template of a component, between two remarks.  A name without a
component is passed over. -/
def includeComponent (w : Workspace) (nested : Nested) (name : String) (params : Option String)
    (p : Pass) : Except CompileError Pass :=
  match w.lookup name with
  | .error e => if e.isRecoverable then .ok p else .error e
  | .ok c => do
    let target := c.mainTemplate
    let inner ← nested target (some c)
    let scopeParams := c.defaults.toList ++ params.toList
    let p := p.emit [moduleRemark "begin" c.name]
    let p := p.splice scopeParams params.isSome target inner
    return (p.emit [moduleRemark "end" c.name]).depend target

/-- `includeJs` and `includeCss`: the marker of an asset. -/
def referTo (kind : AssetKind) (reference : String) (p : Pass) : Pass :=
  let (collector, path) := p.collector.reference kind reference
  ({ p.emit [.append (kind.marker path)] with collector }).depend path

/-- What a directive adds to a pass. -/
def follow (t : Template) (w : Workspace) (nested : Nested) (d : Directive) (p : Pass) :
    Except CompileError Pass :=
  match d with
  | .includeFile reference params => t.includeFile w nested reference params p
  | .includeComponent name params => includeComponent w nested name params p
  | .script reference => .ok (referTo .script reference p)
  | .style reference => .ok (referTo .style reference p)
  | .beginCapture params => .ok (p.emit [.beginCapture params])
  | .endCapture => .ok (p.emit [.endCapture])

/-! ## Compiling -/

/-- The pass before the first segment: it has found the images of the template. -/
def start (t : Template) : Pass where
  collector :=
    let c : Collector := { component := t.component, sourcePath := t.options.sourcePath }
    c.scanImages t.text

/-- What a pass over the whole template has made of it. -/
def compiled (t : Template) (p : Pass) : Compiled :=
  ⟨p.program, t.text, p.dependencies, p.collector.assets⟩

/-- The error of an include that leads back to a template on the chain. -/
def cyclic (t : Template) (path : Path) : CompileError :=
  .cyclicInclude path (t.chain.map Path.Normal.path ++ [path])

/-- **A template with every directive followed.** -/
def expand (w : Workspace) (t : Template) : Except CompileError Compiled :=
  let nested : Nested := fun path component =>
    if t.isActive path then .error (t.cyclic path)
    else
      match w.library.read path with
      | .error reason => .error (.unreadableInclude path reason)
      | .ok text =>
        if _h : t.chain.length < w.depth then expand w (t.including path component text)
        else .error .nestedTooDeep
  (t.pass (t.follow w nested) t.start).map t.compiled
termination_by w.depth - t.chain.length
decreasing_by
  simp only [including, List.length_append, List.length_singleton]
  omega

/-- The program of a template without its directives. -/
def withoutDirectives (t : Template) : Except CompileError Program :=
  (t.pass (fun _ p => .ok p) {}).map Pass.program

end Template

/-- **A template text compiled** with some options. -/
def Workspace.compile (w : Workspace) (options : Options) (text : String) :
    Except CompileError Compiled := Template.expand w (.ofText options text)

end Stencil
