import Stencil.Proofs.Process.Simulation
import Stencil.Render

/-!
# Simulation between renderers

Two renderers run the same tree alike if they do so with everything that a tree is run by: code,
faults, changes of the output, lines, and bodies in frames and scopes of their own.

## Main definitions

* `Stencil.Block.every` — whether every fragment of a block is of some kind.
* `Stencil.Renderer.Simulation` — renderers of which one does what the other does, piece by piece.

## Main results

* `Stencil.Renderer.Simulation.branch`, `scope`, `runLoop` — nodes end alike where what is inside
  them does.
* `Stencil.Renderer.Simulation.runNode`, `runBlock`, `runBranches` — trees end alike.

## Design

Which renderings are related depends on the frames that rendering is inside of, so the relations are
a family.  Only the body of a frame or of a scope is run at another index than what stands around
it, and whoever states the family says how this one is reached.
-/

set_option relaxedAutoImplicit false
set_option autoImplicit false

namespace Stencil

open Script
open Process (Simulates)

/-! ## Fragments of a tree -/

/-- Whether the fragments in the head of a loop pass.  They run in the frame of the loop. -/
def LoopHeader.every (passes : Bool → String → Bool) : LoopHeader → Bool
  | .counted start _ update => start.all (passes true) && update.all (passes true)
  | _ => true

mutual

/-- Whether every fragment of a node passes, given whether the node is in a frame of its own. -/
def Node.every (passes : Bool → String → Bool) (inner : Bool) : Node → Bool
  | .step _ => true
  | .exec fragment => passes inner fragment
  | .scope _ body => body.every passes true
  | .branch _ body rest => body.every passes true && rest.every passes inner
  | .loop header body => header.every passes && body.every passes true

/-- **Whether every fragment of a block passes.** -/
def Block.every (passes : Bool → String → Bool) (inner : Bool) : Block → Bool
  | .nil => true
  | .cons head tail => head.every passes inner && tail.every passes inner

/-- Whether every fragment of alternatives passes. -/
def Branches.every (passes : Bool → String → Bool) (inner : Bool) : Branches → Bool
  | .none => true
  | .otherwise body => body.every passes true
  | .elseIf _ body rest => body.every passes true && rest.every passes inner

end

/-- Where every fragment passes, those in the head of a loop do. -/
lemma LoopHeader.every_true (header : LoopHeader) : header.every (fun _ _ => true) = true := by
  cases header with
  | counted start condition update => cases start <;> cases update <;> rfl
  | _ => rfl

mutual

/-- Where every fragment passes, those of a node do. -/
lemma Node.every_true (inner : Bool) (node : Node) : node.every (fun _ _ => true) inner = true := by
  cases node with
  | scope entry body => exact body.every_true true
  | branch condition body rest =>
    rw [Node.every, body.every_true, rest.every_true, Bool.and_self]
  | loop header body => rw [Node.every, header.every_true, body.every_true, Bool.and_self]
  | _ => rfl

/-- Where every fragment passes, those of a block do. -/
lemma Block.every_true (inner : Bool) (block : Block) :
    block.every (fun _ _ => true) inner = true := by
  cases block with
  | nil => rfl
  | cons head tail => rw [Block.every, head.every_true, tail.every_true, Bool.and_self]

/-- Where every fragment passes, those of alternatives do. -/
lemma Branches.every_true (inner : Bool) (rest : Branches) :
    rest.every (fun _ _ => true) inner = true := by
  cases rest with
  | none => rfl
  | otherwise body => exact body.every_true true
  | elseIf condition body rest =>
    rw [Branches.every, body.every_true, rest.every_true, Bool.and_self]

end

/-! ## Scopes of includes -/

namespace Render

/-- A rendering with one more frame. -/
def enterFrame (f : Frame) (r : Rendering) : Rendering := { r with scope := r.scope.push f }

/-- A rendering with its frames cut down to those of an earlier one. -/
def leaveFrame (r t : Rendering) : Rendering := { t with scope := t.scope.truncate r.scope.depth }

/-- A rendering in the scope of an include. -/
def enterScope (entry : ScopeEntry) (vars : Fields Value) (r : Rendering) : Rendering :=
  let scope := r.scope.push { vars, isFunction := true, isolated := entry.isolated }
  match entry.origin with
  | none => { r with scope }
  | some origin => { r with scope, line := 1, origins := origin :: r.origins }

/-- A rendering out of the scope of an include, at the line of an earlier one. -/
def leaveScope (entry : ScopeEntry) (r t : Rendering) : Rendering :=
  let scope := t.scope.truncate r.scope.depth
  match entry.origin with
  | none => { t with scope }
  | some _ => { t with scope, line := r.line, origins := t.origins.tail }

/-- A body in the scope of an include stands between an entry and an exit. -/
lemma inScope_eq (entry : ScopeEntry) (vars : Fields Value) (body : Render Unit) :
    Render.inScope entry vars body = fun r =>
      ((body (enterScope entry vars r)).1,
        leaveScope entry r (body (enterScope entry vars r)).2) := by
  funext r
  rcases entry with ⟨params, isolated, _ | origin⟩ <;> rfl

/-- Scopes of includes are left with the frames cut down. -/
lemma scope_leaveScope (entry : ScopeEntry) (r t : Rendering) :
    (leaveScope entry r t).scope = t.scope.truncate r.scope.depth := by
  unfold leaveScope
  cases entry.origin <;> rfl

end Render

namespace Renderer

variable {n n' : Renderer}

/-! ## Loops in their parts -/

/-- The start of a counted loop, which may be missing. -/
def startWith (n : Renderer) : Option String → Render Unit
  | none => return ()
  | some start => n.execute start

/-- The condition of a counted loop; where it is missing, it always holds. -/
def testOptional (n : Renderer) : Option String → Render Bool
  | none => return true
  | some condition => n.test condition

/-- The update of a counted loop, at the line of the loop; it may be missing. -/
def updateAt (n : Renderer) (line : Nat) : Option String → Render Unit
  | none => return ()
  | some update => do
    Render.atLine line
    n.execute update

/-- A counted loop in its parts. -/
lemma runLoop_counted (start condition update : Option String) (body : Render Unit) :
    n.runLoop (.counted start condition update) body = (do
      let line := (← get).line
      Render.inFrame {} do
        n.startWith start
        Process.loop (do Render.atLine line; n.testOptional condition)
          (do Render.inFrame {} body; n.updateAt line update) n.fuel) := by
  cases start <;> cases condition <;> cases update <;> rfl

/-- The elements that a loop visits. -/
def elements (n : Renderer) (iterable : String) : Render (List Value) := do
  let v ← n.evaluate iterable
  match elementsOf v with
  | .ok items => return items
  | .error f => n.fail f

/-- The elements that are handed to a callback. -/
def items (n : Renderer) (iterable : String) : Render (List Value) := do
  match ← n.evaluate iterable with
  | .list items => return items
  | .null => n.fail (.type (.readOfNothing "forEach"))
  | _ => n.fail (.type (.notFunction (iterable ++ ".forEach")))

/-- A loop over elements in its parts. -/
lemma runLoop_forOf (binding iterable : String) (body : Render Unit) :
    n.runLoop (.forOf binding iterable) body = (do
      let line := (← get).line
      let values ← n.elements iterable
      Process.forEach (fun v => do
        Render.atLine line
        Render.inFrame { vars := [(binding, v)] } body) values) := by
  unfold runLoop elements
  simp only [bind_assoc]
  congr 1
  funext r
  congr 1
  funext v
  cases elementsOf v <;> rfl

/-- The frame of a callback, for an element and its position. -/
def callbackFrame (item : String) (index : Option String) (x : Value × Nat) : Frame where
  vars := index.elim [(item, x.1)] fun index => Fields.insert index (Value.ofNat x.2) [(item, x.1)]
  isFunction := true

/-- A loop with a callback in its parts. -/
lemma runLoop_forEach (iterable item : String) (index : Option String) (body : Render Unit) :
    n.runLoop (.forEach iterable item index) body = (do
      let line := (← get).line
      let values ← n.items iterable
      Process.forEach (fun x => do
        Render.atLine line
        Render.inFrame (callbackFrame item index x) body) values.zipIdx) := by
  unfold runLoop items
  simp only [bind_assoc]
  congr 1
  funext r
  congr 1
  funext v
  cases index <;> cases v <;> rfl

/-! ## Simulation -/

/-- **Renderers of which one does what the other does,** up to the names of reasons to stop.
Fragments may do so only as far as they pass. -/
structure Simulation {ι : Type} (n n' : Renderer) (f : Halt Failure → Halt Failure)
    (passes : Bool → String → Bool) (inner : ι → Bool) (T : ι → Rendering → Rendering → Prop) :
    Prop where
  /-- Spent fuel goes by the same name. -/
  exhausted : f .exhausted = .exhausted
  /-- Both have the same fuel. -/
  fuel : n.fuel = n'.fuel
  /-- Both escape alike. -/
  escape : n.escape = n'.escape
  /-- Both put values out alike. -/
  display : n.evaluator.display = n'.evaluator.display
  /-- Expressions end alike. -/
  evaluate : ∀ i code, Simulates f (T i) (n.evaluate code) (n'.evaluate code)
  /-- Fragments that pass end alike. -/
  execute : ∀ i code, passes (inner i) code = true →
    Simulates f (T i) (n.execute code) (n'.execute code)
  /-- Faults are the same by their other names. -/
  fail : ∀ i fault, Simulates f (T i) (n.fail fault : Render Unit) (n'.fail fault)
  /-- Related renderings differ in their bindings and their place alone. -/
  output : ∀ ⦃i r q⦄, T i r q → ∃ scope line origins, q = { r with scope, line, origins }
  /-- A change of anything else leaves them related. -/
  change : ∀ ⦃i r q⦄, T i r q → ∀ g : Rendering → Rendering,
    (∀ r scope line origins,
      g { r with scope, line, origins } = { g r with scope, line, origins }) → T i (g r) (g q)
  /-- A line come to leaves them related. -/
  atLine : ∀ ⦃i r q⦄, T i r q → ∀ line, T i { r with line } { q with line }
  /-- So does a line gone back to. -/
  backTo : ∀ ⦃i r q⦄, T i r q → ∀ ⦃j r' q'⦄, T j r' q' →
    T j { r' with line := r.line } { q' with line := q.line }
  /-- Bodies in a frame of their own end alike if they do so inside it. -/
  inFrame : ∀ i frame {x y : Render Unit}, (∀ j, inner j = true → Simulates f (T j) x y) →
    Simulates f (T i) (Render.inFrame frame x) (Render.inFrame frame y)
  /-- Bodies in the scope of an include end alike if they do so inside it. -/
  inScope : ∀ i entry vars {x y : Render Unit}, (∀ j, inner j = true → Simulates f (T j) x y) →
    Simulates f (T i) (Render.inScope entry vars x) (Render.inScope entry vars y)

namespace Simulation

variable {ι : Type} {f : Halt Failure → Halt Failure} {passes : Bool → String → Bool}
  {inner : ι → Bool} {T : ι → Rendering → Rendering → Prop}
  (h : n.Simulation n' f passes inner T) (i : ι)

include h

/-! ## Steps -/

/-- A change of the output. -/
lemma simulates_modify {g : Rendering → Rendering}
    (hg : ∀ r scope line origins,
      g { r with scope, line, origins } = { g r with scope, line, origins }) :
    Simulates f (T i) (modify g : Render Unit) (modify g) :=
  fun _ _ hrq => ⟨rfl, h.change hrq g hg⟩

/-- A look at the output. -/
lemma simulates_get {α : Type} {g g' : Rendering → Render α}
    (hg : ∀ r scope line origins, g' { r with scope, line, origins } = g' r)
    (hgg : ∀ r, Simulates f (T i) (g r) (g' r)) :
    Simulates f (T i) (get >>= g) (get >>= g') := by
  intro r q hrq
  have hread := hgg r hrq
  obtain ⟨scope, line, origins, hq⟩ := h.output hrq
  show (g r r).1.mapError f = (g' q q).1 ∧ T i (g r r).2 (g' q q).2
  rwa [show g' q = g' r by rw [hq]; exact hg r scope line origins]

/-- A line is noted on both sides. -/
lemma simulates_atLine (line : Nat) : Simulates f (T i) (Render.atLine line) (Render.atLine line) :=
  fun _ _ hrq => ⟨rfl, h.atLine hrq line⟩

/-- A look at the line, which rendering goes back to. -/
lemma simulates_getLine {α : Type} {g g' : Rendering → Render α}
    (hgg : ∀ r q, (∀ j, Simulates f (T j) (Render.atLine r.line) (Render.atLine q.line)) →
      Simulates f (T i) (g r) (g' q)) : Simulates f (T i) (get >>= g) (get >>= g') :=
  fun r q hrq => hgg r q (fun _ _ _ hrq' => ⟨rfl, h.backTo hrq hrq'⟩) hrq

/-- Text is put out on both sides. -/
lemma simulates_append (text : String) :
    Simulates f (T i) (Render.append text) (Render.append text) :=
  h.simulates_modify i fun _ _ _ _ => rfl

/-- Conditions end alike. -/
lemma test (condition : String) : Simulates f (T i) (n.test condition) (n'.test condition) :=
  .bind (h.evaluate i condition) fun _ => .pure _

/-- Steps end alike.

**Proof sketch.** The cases of the step.  Both sides evaluate the same expressions with the same
evaluator, and then write or note the same. -/
lemma runStep (s : Step) : Simulates f (T i) (n.runStep s) (n'.runStep s) := by
  cases s with
  | append text => exact h.simulates_append i text
  | appendEscaped expr =>
    refine Simulates.bind (h.evaluate i expr) fun v => ?_
    rw [h.escape, h.display]
    exact h.simulates_append i _
  | appendRaw expr =>
    refine Simulates.bind (h.evaluate i expr) fun v => ?_
    rw [h.display]
    exact h.simulates_append i _
  | line number => exact h.simulates_atLine i number
  | beginCapture params =>
    have hbegin : Simulates f (T i)
        (do
          let v ← n.evaluate params
          modify fun r => { r with output := "", capture := some (r.output, v) })
        (do
          let v ← n'.evaluate params
          modify fun r => { r with output := "", capture := some (r.output, v) }) :=
      .bind (h.evaluate i params) fun v => h.simulates_modify i fun _ _ _ _ => rfl
    refine h.simulates_get i (fun _ _ _ _ => rfl) fun r => ?_
    split
    · exact .bind (h.fail i _) fun _ => hbegin
    · exact hbegin
  | endCapture =>
    refine h.simulates_get i (fun _ _ _ _ => rfl) fun r => ?_
    split
    · exact h.fail i _
    · exact h.simulates_modify i fun _ _ _ _ => rfl

/-- The parameters of a scope end alike. -/
lemma paramVars (vars : Fields Value) (params : List String) :
    Simulates f (T i) (n.paramVars vars params) (n'.paramVars vars params) := by
  induction params generalizing vars with
  | nil => exact .pure vars
  | cons param rest ih =>
    refine Simulates.bind (h.evaluate i param) fun v => ?_
    cases v <;> exact ih _

/-- The start of a counted loop ends alike, if it passes. -/
lemma startWith {start : Option String} (hstart : start.all (passes (inner i)) = true) :
    Simulates f (T i) (n.startWith start) (n'.startWith start) := by
  cases start with
  | none => exact .pure ()
  | some code => exact h.execute i code hstart

/-- The condition of a counted loop ends alike. -/
lemma testOptional (condition : Option String) :
    Simulates f (T i) (n.testOptional condition) (n'.testOptional condition) := by
  cases condition with
  | none => exact .pure true
  | some code => exact h.test i code

/-- The update of a counted loop ends alike, if it passes and the lines do. -/
lemma updateAt {a b : Nat} (hab : Simulates f (T i) (Render.atLine a) (Render.atLine b))
    {update : Option String} (hupdate : update.all (passes (inner i)) = true) :
    Simulates f (T i) (n.updateAt a update) (n'.updateAt b update) := by
  cases update with
  | none => exact .pure ()
  | some code => exact .bind hab fun _ => h.execute i code hupdate

/-! ## Nodes of parts that end alike -/

/-- **Conditions end alike** where what they guard does, and what is done otherwise. -/
lemma branch (condition : String) {yes yes' no no' : Render Unit}
    (hyes : Simulates f (T i) yes yes') (hno : Simulates f (T i) no no') :
    Simulates f (T i) (do if ← n.test condition then yes else no)
      (do if ← n'.test condition then yes' else no') := by
  refine Simulates.bind (h.test i condition) fun holds => ?_
  cases holds with
  | true => exact hyes
  | false => exact hno

/-- **Scopes of includes end alike** where their bodies do. -/
lemma scope (entry : ScopeEntry) {x y : Render Unit}
    (hxy : ∀ j, inner j = true → Simulates f (T j) x y) :
    Simulates f (T i)
      (do
        let vars ← n.paramVars [] entry.params
        Render.inScope entry (withLocals entry.isolated vars) x)
      (do
        let vars ← n'.paramVars [] entry.params
        Render.inScope entry (withLocals entry.isolated vars) y) :=
  .bind (h.paramVars i [] entry.params) fun _ => h.inScope i entry _ hxy

/-- **Loops end alike** where their bodies do.

**Proof sketch.** Both sides go round the same loop, and both take back the line at which they have
begun. -/
lemma runLoop {header : LoopHeader} (hheader : header.every passes = true) {x y : Render Unit}
    (hxy : ∀ j, inner j = true → Simulates f (T j) x y) :
    Simulates f (T i) (n.runLoop header x) (n'.runLoop header y) := by
  have heach {a b : Nat} (hab : ∀ j, Simulates f (T j) (Render.atLine a) (Render.atLine b))
      (frame : Frame) : Simulates f (T i) (do Render.atLine a; Render.inFrame frame x)
        (do Render.atLine b; Render.inFrame frame y) :=
    .bind (hab i) fun _ => h.inFrame i frame hxy
  cases header with
  | whileLoop condition =>
    refine h.simulates_getLine i fun r q hline => ?_
    rw [h.fuel]
    exact .loop h.exhausted (.bind (hline i) fun _ => h.test i condition)
      (h.inFrame i {} hxy) n'.fuel
  | forOf binding iterable =>
    refine h.simulates_getLine i fun r q hline => ?_
    refine .bind (h.evaluate i iterable) fun v => ?_
    split
    · exact .forEach (fun _ => heach hline _) _
    · exact h.fail i _
  | forIn binding object =>
    exact h.simulates_getLine i fun r q hline =>
      .bind (h.evaluate i object) fun v => .forEach (fun _ => heach hline _) _
  | counted start condition update =>
    obtain ⟨hstart, hupdate⟩ := Bool.and_eq_true_iff.1 hheader
    rw [runLoop_counted, runLoop_counted]
    refine h.simulates_getLine i fun r q hline => h.inFrame i {} fun j hj => ?_
    rw [h.fuel]
    refine .bind (h.startWith j (by rwa [hj])) fun _ => .loop h.exhausted ?_ ?_ n'.fuel
    · exact .bind (hline j) fun _ => h.testOptional j condition
    · exact .bind (h.inFrame j {} hxy) fun _ => h.updateAt j (hline j) (by rwa [hj])
  | forEach iterable item index =>
    refine h.simulates_getLine i fun r q hline => ?_
    refine .bind (h.evaluate i iterable) fun v => ?_
    split
    · exact .forEach (fun _ => heach hline _) _
    · exact h.fail i _
    · exact h.fail i _

end Simulation

/-! ## Nodes -/

namespace Simulation

variable {ι : Type} {f : Halt Failure → Halt Failure} {passes : Bool → String → Bool}
  {inner : ι → Bool} {T : ι → Rendering → Rendering → Prop}

mutual

/-- **Nodes end alike,** if every fragment in them passes.

**Proof sketch.** Induction on the tree, for all indices at once: what is rendered in a frame of its
own is rendered at the index of that frame. -/
theorem runNode (h : n.Simulation n' f passes inner T) (i : ι) (node : Node)
    (hnode : node.every passes (inner i) = true) :
    Simulates f (T i) (n.runNode node) (n'.runNode node) := by
  cases node with
  | step s => exact h.runStep i s
  | exec fragment => exact h.execute i fragment hnode
  | scope entry body =>
    exact h.scope i entry fun j hj => h.runBlock j body (by rw [hj]; exact hnode)
  | branch condition body rest =>
    obtain ⟨hbody, hrest⟩ := Bool.and_eq_true_iff.1 hnode
    exact h.branch i condition
      (h.inFrame i {} fun j hj => h.runBlock j body (by rwa [hj])) (h.runBranches i rest hrest)
  | loop header body =>
    obtain ⟨hheader, hbody⟩ := Bool.and_eq_true_iff.1 hnode
    exact h.runLoop i hheader fun j hj => h.runBlock j body (by rwa [hj])

/-- **Blocks end alike,** if every fragment in them passes. -/
theorem runBlock (h : n.Simulation n' f passes inner T) (i : ι) (block : Block)
    (hblock : block.every passes (inner i) = true) :
    Simulates f (T i) (n.runBlock block) (n'.runBlock block) := by
  cases block with
  | nil => exact .pure ()
  | cons head tail =>
    obtain ⟨hhead, htail⟩ := Bool.and_eq_true_iff.1 hblock
    exact .bind (h.runNode i head hhead) fun _ => h.runBlock i tail htail

/-- **Alternatives end alike,** if every fragment in them passes. -/
theorem runBranches (h : n.Simulation n' f passes inner T) (i : ι) (rest : Branches)
    (hrest : rest.every passes (inner i) = true) :
    Simulates f (T i) (n.runBranches rest) (n'.runBranches rest) := by
  cases rest with
  | none => exact .pure ()
  | otherwise body => exact h.inFrame i {} fun j hj => h.runBlock j body (by rwa [hj])
  | elseIf condition body rest =>
    obtain ⟨hbody, hrest⟩ := Bool.and_eq_true_iff.1 hrest
    exact h.branch i condition
      (h.inFrame i {} fun j hj => h.runBlock j body (by rwa [hj])) (h.runBranches i rest hrest)

end

end Simulation

end Renderer

end Stencil
