import Stencil.Artifact
import Stencil.Block.Tree
import Stencil.Failure
import Stencil.Script.Evaluator

/-!
# Rendering

A compiled template is run on data.  Its text and the values of its expressions are put out one
after the other; parts of the output may be sent to blocks that are kept apart.

## Main definitions

* `Stencil.Rendering` — what rendering changes.
* `Stencil.Render` — a process on it.
* `Stencil.Renderer` — what stays the same while a template is rendered, and
  `Stencil.Renderer.runBlock`, the run of a block of nodes.
* `Stencil.Artifact.render` — rendering.

## Design

The runs of a node, of a block and of the alternatives of a condition are recursive in the tree.
Frames are pushed and origins are noted by `inFrame` and `inScope` alone, which take them back
however the body ends.
-/

set_option relaxedAutoImplicit false
set_option autoImplicit false

namespace Stencil

open Script

/-! ## State -/

/-- A block that was kept apart from the output. -/
structure Extract where
  /-- The output of the block. -/
  html : String
  /-- The parameters of the block. -/
  params : Value

/-- What rendering gives. -/
structure Rendered where
  /-- The output. -/
  output : String
  /-- The blocks that were kept apart, in the order in which they ended. -/
  blocks : List Extract

/-- **What rendering changes.** -/
structure Rendering where
  /-- The bindings. -/
  scope : Scope
  /-- The output, or that of the present block. -/
  output : String := ""
  /-- The output set aside for the present block, and the parameters of that block. -/
  capture : Option (String × Value) := none
  /-- The blocks that have ended. -/
  blocks : List Extract := []
  /-- The line that rendering has come to. -/
  line : Nat := 1
  /-- The templates that are being rendered, innermost first. -/
  origins : List Origin := []

/-- **A process of rendering.** -/
abbrev Render (α : Type) := Process Failure Rendering α

/-- **What stays the same while a template is rendered.** -/
structure Renderer where
  /-- The language of the fragments. -/
  evaluator : Evaluator
  /-- How the values of escaped expressions are escaped. -/
  escape : String → String
  /-- Whether failures are located. -/
  diagnostics : Bool
  /-- How often a loop may turn. -/
  fuel : Nat

namespace Render

/-- Text put out. -/
def append (text : String) : Render Unit := modify fun r => { r with output := r.output ++ text }

/-- The line that rendering comes to. -/
def atLine (number : Nat) : Render Unit := modify fun r => { r with line := number }

/-- A body in a frame of its own, which is gone afterwards, however the body ends. -/
def inFrame {α : Type} (f : Frame) (body : Render α) : Render α := fun r =>
  let (result, t) := body { r with scope := r.scope.push f }
  (result, { t with scope := t.scope.truncate r.scope.depth })

/-- A body in a function frame, and at the first line of its template if that is known.
Afterwards the frame is gone and the line is as before, however the body ends. -/
def inScope {α : Type} (entry : ScopeEntry) (vars : Fields Value) (body : Render α) : Render α :=
  fun r =>
    let scope := r.scope.push { vars, isFunction := true, isolated := entry.isolated }
    match entry.origin with
    | none =>
      let (result, t) := body { r with scope }
      (result, { t with scope := t.scope.truncate r.scope.depth })
    | some origin =>
      let (result, t) := body { r with scope, line := 1, origins := origin :: r.origins }
      (result, { t with
        scope := t.scope.truncate r.scope.depth, line := r.line, origins := t.origins.tail })

end Render

namespace Renderer

/-! ## Code -/

/-- A fault with its place. -/
def failure (n : Renderer) (r : Rendering) (f : Fault) : Failure :=
  ⟨f, if n.diagnostics then r.origins.head?.map fun origin => ⟨origin, r.line⟩ else none⟩

/-- A fault that stops rendering. -/
def fail {α : Type} (n : Renderer) (f : Fault) : Render α := fun r =>
  (.error (.fault (n.failure r f)), r)

/-- A run of code on the bindings. -/
def onScope {α : Type} (n : Renderer) (x : Run α) : Render α := fun r =>
  let (result, scope) := x r.scope
  let r := { r with scope }
  match result with
  | .ok a => (.ok a, r)
  | .error (.fault f) => (.error (.fault (n.failure r f)), r)
  | .error .exhausted => (.error .exhausted, r)

/-- The value of an expression. -/
def evaluate (n : Renderer) (code : String) : Render Value :=
  n.onScope (.ofEval (n.evaluator.evaluate code))

/-- A fragment run. -/
def execute (n : Renderer) (code : String) : Render Unit :=
  n.onScope (n.evaluator.execute n.fuel code)

/-- Whether a condition holds. -/
def test (n : Renderer) (condition : String) : Render Bool :=
  return (← n.evaluate condition).truthy

/-! ## Steps -/

/-- A step. -/
def runStep (n : Renderer) : Step → Render Unit
  | .append text => Render.append text
  | .appendEscaped expr => do
    let v ← n.evaluate expr
    Render.append (n.escape (n.evaluator.display v))
  | .appendRaw expr => do
    let v ← n.evaluate expr
    Render.append (n.evaluator.display v)
  | .line number => Render.atLine number
  | .beginCapture params => do
    if (← get).capture.isSome then n.fail .nestedCapture
    let v ← n.evaluate params
    modify fun r => { r with output := "", capture := some (r.output, v) }
  | .endCapture => do
    match (← get).capture with
    | none => n.fail .strayEndCapture
    | some (main, params) =>
      modify fun r =>
        { r with output := main, capture := none, blocks := r.blocks ++ [⟨r.output, params⟩] }

/-- The bindings of a scope: the members of its parameters, laid over the given ones.
Parameters that are no objects are passed over. -/
def paramVars (n : Renderer) (vars : Fields Value) : List String → Render (Fields Value)
  | [] => return vars
  | params :: rest => do
    match ← n.evaluate params with
    | .object fields => n.paramVars (vars.override fields) rest
    | _ => n.paramVars vars rest

/-- The bindings of a scope with their own object beside them, where the scope is isolated. -/
def withLocals (isolated : Bool) (vars : Fields Value) : Fields Value :=
  if isolated && !vars.contains "locals" then vars.insert "locals" (.object vars) else vars

/-! ## Loops -/

/-- A loop, given the run of its body. -/
def runLoop (n : Renderer) (header : LoopHeader) (body : Render Unit) : Render Unit := do
  let line := (← get).line
  let each := fun (binding : String) (v : Value) => do
    Render.atLine line
    Render.inFrame { vars := [(binding, v)] } body
  match header with
  | .whileLoop condition =>
    Process.loop (do Render.atLine line; n.test condition) (Render.inFrame {} body) n.fuel
  | .forOf binding iterable =>
    let v ← n.evaluate iterable
    match elementsOf v with
    | .ok items => Process.forEach (each binding) items
    | .error f => n.fail f
  | .forIn binding object =>
    let v ← n.evaluate object
    Process.forEach (each binding) v.keys
  | .counted start condition update =>
    Render.inFrame {} do
      if let some start := start then n.execute start
      Process.loop
        (do
          Render.atLine line
          match condition with
          | some condition => n.test condition
          | none => return true)
        (do
          Render.inFrame {} body
          if let some update := update then
            Render.atLine line
            n.execute update)
        n.fuel
  | .forEach iterable item index =>
    match ← n.evaluate iterable with
    | .list items =>
      Process.forEach (fun (v, position) => do
        Render.atLine line
        let vars := [(item, v)]
        let vars := match index with
          | some index => Fields.insert index (Value.ofNat position) vars
          | none => vars
        Render.inFrame { vars, isFunction := true } body) items.zipIdx
    | .null => n.fail (.type (.readOfNothing "forEach"))
    | _ => n.fail (.type (.notFunction (iterable ++ ".forEach")))

/-! ## Nodes -/

mutual

/-- The run of a node. -/
def runNode (n : Renderer) : Node → Render Unit
  | .step s => n.runStep s
  | .exec fragment => n.execute fragment
  | .scope entry body => do
    let vars ← n.paramVars [] entry.params
    Render.inScope entry (withLocals entry.isolated vars) (n.runBlock body)
  | .branch condition body rest => do
    if ← n.test condition then Render.inFrame {} (n.runBlock body) else n.runBranches rest
  | .loop header body => n.runLoop header (n.runBlock body)

/-- **The run of a block.** -/
def runBlock (n : Renderer) : Block → Render Unit
  | .nil => return ()
  | .cons head tail => do
    n.runNode head
    n.runBlock tail

/-- The run of the alternatives of a condition that does not hold. -/
def runBranches (n : Renderer) : Branches → Render Unit
  | .none => return ()
  | .otherwise body => Render.inFrame {} (n.runBlock body)
  | .elseIf condition body rest => do
    if ← n.test condition then Render.inFrame {} (n.runBlock body) else n.runBranches rest

end

end Renderer

/-! ## Artifacts -/

namespace Artifact

/-- The bindings that a template begins with.  The data is `locals`; its members are bindings of
their own unless the options forbid it. -/
def startScope (a : Artifact) (data : Value) : Scope :=
  let globals := match a.options.globals with
    | some (.object fields) => fields
    | _ => []
  let vars : Fields Value := [("locals", data)]
  let vars := match a.options.strictLocals, data with
    | true, .object fields => vars.override fields
    | _, _ => vars
  { globals, frames := [{ vars, isFunction := true }] }

/-- **A template rendered** with an evaluator and fuel. -/
def render (a : Artifact) (evaluator : Evaluator) (fuel : Nat) (data : Value) :
    Except (Halt Failure) Rendered :=
  match Block.ofProgram evaluator.classify a.program with
  | .error f => .error (.fault ⟨.unbalanced f, none⟩)
  | .ok block =>
    let n : Renderer := ⟨evaluator, a.options.escape, a.options.diagnostics, fuel⟩
    match n.runBlock block { scope := a.startScope data, origins := [a.origin] } with
    | (.error h, _) => .error h
    | (.ok (), r) =>
      if r.capture.isSome then .error (.fault ⟨.unbalanced .openCapture, none⟩)
      else .ok ⟨r.output, r.blocks⟩

end Artifact

end Stencil
