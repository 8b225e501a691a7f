import Stencil.Cache
import Stencil.Render

/-!
# Sessions

Templates are compiled and rendered one after the other, by text or by path, and compiled templates
may be kept for reuse.

## Main definitions

* `Stencil.RenderError` — why nothing was rendered.
* `Stencil.Session` — what lasts from one request to the next.
* `Stencil.Session.compileFile`, `renderFile`, `render`, `clearCache` — the requests.

## Design

Every successful compile has a serial number, so a compiled template that was kept can be told from
one that was compiled again.
-/

set_option relaxedAutoImplicit false
set_option autoImplicit false

namespace Stencil

/-- Why nothing was rendered. -/
inductive RenderError where
  /-- The template does not compile. -/
  | compile (e : CompileError)
  /-- The template failed when it was rendered. -/
  | failure (f : Failure)
  /-- The fuel was spent. -/
  | exhausted

/-- The wording of an error. -/
def RenderError.message : RenderError → String
  | compile e => e.message
  | failure f => f.message
  | exhausted => "out of fuel"

/-- The error of a process that stopped early. -/
def RenderError.ofHalt : Halt Failure → RenderError
  | .fault f => .failure f
  | .exhausted => .exhausted

/-- An artifact with the number of the compile that it came from. -/
structure Numbered where
  /-- The number. -/
  serial : Nat
  /-- The artifact. -/
  artifact : Artifact

/-- **What lasts from one request to the next.**  A cache of limited capacity has states of type
`σ`. -/
structure Session (σ : Type) where
  /-- What includes read through. -/
  workspace : Workspace
  /-- The language of the fragments. -/
  evaluator : Evaluator := .script
  /-- How often a loop may turn. -/
  fuel : Nat := Decimal.twoPow 60
  /-- The compiled templates that are kept, if any are. -/
  cache : Option (Cache σ Numbered) := none
  /-- How many templates have been compiled. -/
  compiles : Nat := 0

namespace Session

variable {σ : Type}

/-- A template compiled, when its text can be had. -/
def compile (s : Session σ) (options : Options) (text : Except CompileError String) :
    Except CompileError Numbered × Session σ :=
  match text.bind (s.workspace.artifact options) with
  | .ok artifact => (.ok ⟨s.compiles, artifact⟩, { s with compiles := s.compiles + 1 })
  | .error e => (.error e, s)

/-- The path under which a template is kept, if the options ask for it. -/
def cacheKey? (options : Options) : Option Path :=
  if options.cacheArtifacts then options.sourcePath else none

/-- A template taken from the cache, or compiled and kept there. -/
def cached (s : Session σ) (options : Options) (text : Except CompileError String) :
    Except CompileError Numbered × Session σ :=
  match s.cache, cacheKey? options with
  | some cache, some path =>
    match cache.get? path with
    | (some found, cache) => (.ok found, { s with cache := some cache })
    | (none, cache) =>
      match { s with cache := some cache }.compile options text with
      | (.ok made, s) => (.ok made, { s with cache := some (cache.insert path made) })
      | (.error e, s) => (.error e, s)
  | _, _ => s.compile options text

/-- **The template at a path.** -/
def compileFile (s : Session σ) (path : Path) (options : Options) :
    Except CompileError Numbered × Session σ :=
  let target := path.toNormal
  let text := (s.workspace.library.read target.path).mapError fun reason =>
    .unreadableSource target.path reason
  s.cached { options with sourcePath := some target.path } text

/-- A compiled template rendered. -/
def finish (s : Session σ) (data : Value) (compiled : Except CompileError Numbered) :
    Except RenderError Rendered :=
  match compiled with
  | .error e => .error (.compile e)
  | .ok made => (made.artifact.render s.evaluator s.fuel data).mapError .ofHalt

/-- **The template at a path rendered.** -/
def renderFile (s : Session σ) (path : Path) (data : Value) (options : Options) :
    Except RenderError Rendered × Session σ :=
  let (compiled, s) := s.compileFile path options
  (s.finish data compiled, s)

/-- **A template text rendered.**  To be kept it needs a path. -/
def render (s : Session σ) (text : String) (data : Value) (options : Options) :
    Except RenderError Rendered × Session σ :=
  if options.cacheArtifacts && options.sourcePath.isNone then
    (.error (.compile (.missingPath "cache")), s)
  else
    let (compiled, s) :=
      if options.cacheArtifacts then s.cached options (.ok text) else s.compile options (.ok text)
    (s.finish data compiled, s)

/-- A session without the templates that were kept. -/
def clearCache (s : Session σ) : Session σ := { s with cache := s.cache.map Cache.clear }

end Session

end Stencil
