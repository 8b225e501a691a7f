import Stencil.Proofs.Render.Isolation
import Stencil.Proofs.Script.Locality
import Stencil.Proofs.Script.Steps

/-!
# Templates that write within their scope

The body of an include, and that of a callback, has a frame that receives what it declares.  A body
that writes nothing but what it has first declared leaves the bindings around it as they are.

## Main definitions

* `Stencil.Node.outlineAfter`, `Stencil.Block.outlineAfter` — the outline after nodes that write
  names declared before alone.
* `Stencil.Block.writesOwn` — whether a body writes names alone that it has declared before.

## Main results

* `Stencil.Renderer.ensures_runNode`, `ensures_runBlock` — nodes that write names declared before
  alone leave what their frames stand on.
* `Stencil.Renderer.scope_eq_of_writesOwn` — an include and a callback leave every binding around
  them, if their bodies stay inside.

## Design

The names that a body has declared are found by reading its code in order.  What a branch or a loop
declares is forgotten behind it, since it may not have run; only the start of a counted loop always
does.
-/

set_option relaxedAutoImplicit false
set_option autoImplicit false

namespace Stencil

open Script
open Process (Ensures Maintains)

/-! ## What is declared before -/

/-- Whether the text of an expression writes names of an outline alone.  One that cannot be read
writes nothing. -/
def Script.Expr.textStaysIn (o : Outline) (code : String) : Bool :=
  match Expr.ofText code with
  | .ok e => e.staysIn o
  | .error _ => true

/-- The outline after a fragment that writes names declared before alone.  One that cannot be
read declares nothing. -/
def Script.Stmt.textOutlineAfter (u : Scope) (o : Outline) (code : String) : Option Outline :=
  match Stmt.listOfText code with
  | .ok body => Stmt.listOutlineAfter u o body
  | .error _ => some o

/-- Whether a step writes names of an outline alone. -/
def Step.staysIn (o : Outline) : Step → Bool
  | .appendEscaped code | .appendRaw code | .beginCapture code => Expr.textStaysIn o code
  | .append _ | .line _ | .endCapture => true

/-- How the frame of a scope is opened. -/
def ScopeEntry.opening (entry : ScopeEntry) : Opening :=
  if entry.isolated then .isolated else .function

/-- The outline in which the body of a loop begins, unless the head of the loop writes other
names than were declared before. -/
def LoopHeader.inside (u : Scope) (o : Outline) : LoopHeader → Option Outline
  | .whileLoop condition =>
    if Expr.textStaysIn o condition then some (o.enter .block []) else none
  | .forOf binding iterable =>
    if Expr.textStaysIn o iterable then some (o.enter .block [binding]) else none
  | .forIn binding object =>
    if Expr.textStaysIn o object then some (o.enter .block [binding]) else none
  | .counted start condition _ => do
    let around := o.enter .block []
    let started ← start.elim (some around) (Stmt.textOutlineAfter u around)
    if condition.all (Expr.textStaysIn started) then some (started.enter .block []) else none
  | .forEach iterable item index =>
    if Expr.textStaysIn o iterable then some (o.enter .function (item :: index.toList)) else none

/-- Whether the update of a loop writes names alone that were declared before. -/
def LoopHeader.updateStaysIn (u : Scope) (o : Outline) : LoopHeader → Bool
  | .counted _ _ update => update.all fun code => (Stmt.textOutlineAfter u o code).isSome
  | _ => true

/-- The outline behind a loop, given that in which its body begins. -/
def LoopHeader.behind (inside : Outline) : LoopHeader → Outline
  -- The start of a counted loop runs in a frame around that of the body.
  | .counted _ _ _ => inside.tail.tail
  | _ => inside.tail

mutual

/-- **The outline after a node** that writes names declared before alone.  There is none for any
other node. -/
def Node.outlineAfter (u : Scope) (o : Outline) : Node → Option Outline
  | .step s => if s.staysIn o then some o else none
  | .exec fragment => Stmt.textOutlineAfter u o fragment
  | .scope entry body =>
    if entry.params.all (Expr.textStaysIn o) &&
        (body.outlineAfter u (o.enter entry.opening [])).isSome then
      some o
    else none
  | .branch condition body rest =>
    if Expr.textStaysIn o condition && (body.outlineAfter u (o.enter .block [])).isSome &&
        rest.staysIn u o then
      some o
    else none
  | .loop header body => do
    let inside ← header.inside u o
    let turned ← body.outlineAfter u inside
    if header.updateStaysIn u turned.tail then some (header.behind inside) else none

/-- **The outline after a block** that writes names declared before alone. -/
def Block.outlineAfter (u : Scope) (o : Outline) : Block → Option Outline
  | .nil => some o
  | .cons head tail => do tail.outlineAfter u (← head.outlineAfter u o)

/-- Whether alternatives write names alone that were declared before. -/
def Branches.staysIn (u : Scope) (o : Outline) : Branches → Bool
  | .none => true
  | .otherwise body => (body.outlineAfter u (o.enter .block [])).isSome
  | .elseIf condition body rest =>
    Expr.textStaysIn o condition && (body.outlineAfter u (o.enter .block [])).isSome &&
      rest.staysIn u o

end

/-- **Whether a body writes names alone that it has declared before,** given the scope around it,
how its frame is opened, and the names that are bound there to begin with. -/
def Block.writesOwn (u : Scope) (opening : Opening) (names : List String) (body : Block) : Bool :=
  (body.outlineAfter u [⟨opening, names⟩]).isSome

/-! ## Outlines grow -/

section Extends

variable {u : Scope}

/-- A fragment takes nothing from the outline. -/
lemma Script.Stmt.extends_textOutlineAfter {o o' : Outline} {code : String}
    (h : Stmt.textOutlineAfter u o code = some o') : o.Extends o' := by
  unfold textOutlineAfter at h
  split at h
  · exact extends_listOutlineAfter h
  · cases h
    exact .refl _

/-- Nor does the start of a counted loop. -/
lemma LoopHeader.extends_start {o o' : Outline} {start : Option String}
    (h : start.elim (some o) (Stmt.textOutlineAfter u o) = some o') : o.Extends o' := by
  cases start with
  | none =>
    cases h
    exact .refl _
  | some code => exact Stmt.extends_textOutlineAfter h

/-- Behind a loop, nothing is taken from the outline. -/
lemma LoopHeader.extends_behind {header : LoopHeader} {o inside : Outline}
    (h : header.inside u o = some inside) : o.Extends (header.behind inside) := by
  cases header with
  | counted start condition update =>
    obtain ⟨started, hstarted, h⟩ := Option.bind_eq_some_iff.1 h
    obtain ⟨-, h⟩ := Option.ite_none_right_eq_some.1 h
    cases h
    exact (extends_start hstarted).tail
  | _ =>
    obtain ⟨-, h⟩ := Option.ite_none_right_eq_some.1 h
    cases h
    exact .refl _

mutual

/-- A node takes nothing from the outline. -/
lemma Node.extends_outlineAfter {o o' : Outline} {node : Node}
    (h : node.outlineAfter u o = some o') : o.Extends o' := by
  cases node with
  | exec fragment => exact Stmt.extends_textOutlineAfter h
  | loop header body =>
    rw [Node.outlineAfter] at h
    obtain ⟨inside, hinside, h⟩ := Option.bind_eq_some_iff.1 h
    obtain ⟨turned, -, h⟩ := Option.bind_eq_some_iff.1 h
    obtain ⟨-, h⟩ := Option.ite_none_right_eq_some.1 h
    cases h
    exact LoopHeader.extends_behind hinside
  | _ =>
    rw [Node.outlineAfter] at h
    obtain ⟨-, h⟩ := Option.ite_none_right_eq_some.1 h
    cases h
    exact .refl _

/-- Nor does a block. -/
lemma Block.extends_outlineAfter {o o' : Outline} {body : Block}
    (h : body.outlineAfter u o = some o') : o.Extends o' := by
  cases body with
  | nil =>
    cases h
    exact .refl _
  | cons head tail =>
    rw [Block.outlineAfter] at h
    obtain ⟨between, hhead, htail⟩ := Option.bind_eq_some_iff.1 h
    exact (Node.extends_outlineAfter hhead).trans (Block.extends_outlineAfter htail)

end

end Extends

/-! ## Renderings on top of scopes -/

/-- A rendering with frames that fit an outline on top of a scope. -/
def Rendering.Above (u : Scope) (o : Outline) (r : Rendering) : Prop := u.Above o r.scope

section Render

variable {u : Scope} {o o' : Outline} {n : Renderer} {functions : Functions}

/-- The text of an expression that writes names of an outline alone. -/
lemma Evaluator.maintains_evaluate {code : String} (h : Expr.textStaysIn o code = true) :
    Maintains (u.Above o) ((script functions).evaluate code) := by
  unfold Expr.textStaysIn at h
  cases hread : Expr.ofText code with
  | ok e =>
    rw [hread] at h
    rw [script_evaluate functions hread]
    exact maintains_eval h
  | error f =>
    show Maintains _ (Eval.ofExcept (Expr.ofText code) >>= eval functions)
    rw [hread]
    exact .of_snd fun _ hs => hs

/-- The text of a fragment that writes names declared before alone. -/
lemma Evaluator.ensures_execute {fuel : Nat} {code : String}
    (h : Stmt.textOutlineAfter u o code = some o') :
    Ensures (u.Above o) (u.Above o') (u.Above o) ((script functions).execute fuel code) := by
  unfold Stmt.textOutlineAfter at h
  cases hread : Stmt.listOfText code with
  | ok body =>
    rw [hread] at h
    rw [script_execute functions fuel hread]
    exact ensures_execList body h
  | error f =>
    rw [hread] at h
    cases h
    show Maintains _ (Run.ofEval (.ofExcept (Stmt.listOfText code)) >>= execList functions fuel)
    rw [hread]
    exact .of_snd fun _ hs => hs

/-- A change of anything but the bindings. -/
lemma Render.maintains_modify {g : Rendering → Rendering} (hg : ∀ r, (g r).scope = r.scope) :
    Maintains (Rendering.Above u o) (modify g : Render Unit) := by
  refine .of_snd fun r hr => ?_
  show u.Above o (g r).scope
  rw [hg]
  exact hr

/-- A line that is noted. -/
lemma Render.maintains_atLine (line : Nat) :
    Maintains (Rendering.Above u o) (Render.atLine line) :=
  Render.maintains_modify fun _ => rfl

/-- A body in a frame of its own. -/
lemma Render.ensures_inFrame (opening : Opening) (names : List String) {vars : Fields Value}
    (hnames : ∀ name ∈ names, Fields.contains name vars = true) {body : Render Unit}
    (hext : (o.enter opening names).Extends o')
    (hbody : Ensures (Rendering.Above u (o.enter opening names)) (Rendering.Above u o')
      (Rendering.Above u (o.enter opening names)) body) :
    Ensures (Rendering.Above u o) (Rendering.Above u o'.tail) (Rendering.Above u o)
      (Render.inFrame (opening.frame vars) body) :=
  .within (enterFrame (opening.frame vars)) leaveFrame hbody (fun _ hr => hr.push opening hnames)
    (fun _ hr _ ht => hr.truncate ht hext) fun _ hr _ ht => hr.truncate ht (.refl _)

/-- The frame that the scope of an include has. -/
lemma ScopeEntry.frame_opening (entry : ScopeEntry) (vars : Fields Value) :
    entry.opening.frame vars = { vars, isFunction := true, isolated := entry.isolated } := by
  rcases entry with ⟨params, _ | _, origin⟩ <;> rfl

/-- The scope of a rendering in the scope of an include. -/
lemma Render.scope_enterScope (entry : ScopeEntry) (vars : Fields Value) (r : Rendering) :
    (enterScope entry vars r).scope = r.scope.push (entry.opening.frame vars) := by
  rw [entry.frame_opening]
  unfold enterScope
  cases entry.origin <;> rfl

/-- A body in the scope of an include. -/
lemma Render.ensures_inScope (entry : ScopeEntry) (vars : Fields Value) {body : Render Unit}
    (hext : (o.enter entry.opening []).Extends o')
    (hbody : Ensures (Rendering.Above u (o.enter entry.opening [])) (Rendering.Above u o')
      (Rendering.Above u (o.enter entry.opening [])) body) :
    Ensures (Rendering.Above u o) (Rendering.Above u o'.tail) (Rendering.Above u o)
      (Render.inScope entry vars body) := by
  rw [Render.inScope_eq]
  refine .within (enterScope entry vars) (leaveScope entry) hbody (fun r hr => ?_)
    (fun r hr t ht => ?_) fun r hr t ht => ?_
  · rw [Rendering.Above, scope_enterScope]
    exact hr.push entry.opening (by simp)
  · rw [Rendering.Above, scope_leaveScope]
    exact hr.truncate ht hext
  · rw [Rendering.Above, scope_leaveScope]
    exact hr.truncate ht (.refl _)

namespace Renderer

/-- A fault that stops rendering. -/
lemma maintains_fail {α : Type} (f : Fault) :
    Maintains (Rendering.Above u o) (n.fail f : Render α) :=
  .of_snd fun _ hr => hr

/-- Code run on the bindings. -/
lemma ensures_onScope {α : Type} {x : Run α}
    (hx : Ensures (u.Above o) (u.Above o') (u.Above o) x) :
    Ensures (Rendering.Above u o) (Rendering.Above u o') (Rendering.Above u o) (n.onScope x) := by
  intro r hr
  obtain ⟨hok, herror⟩ := hx hr
  rw [Rendering.Above, Rendering.Above, onScope_snd]
  unfold onScope
  rcases hxr : x r.scope with ⟨(f | _) | a, t⟩ <;> rw [hxr] at hok herror
  · exact ⟨fun _ h => (by cases h), fun _ _ => herror rfl⟩
  · exact ⟨fun _ h => (by cases h), fun _ _ => herror rfl⟩
  · exact ⟨fun _ _ => hok rfl, fun _ h => (by cases h)⟩

/-- What the frame of a callback binds. -/
lemma contains_callbackFrame (item : String) (index : Option String) (x : Value × Nat) :
    ∀ name ∈ item :: index.toList,
      Fields.contains name (callbackFrame item index x).vars = true := by
  intro name hname
  cases index with
  | none => exact contains_binding hname x.1
  | some index =>
    show (Fields.get? name (Fields.insert index (Value.ofNat x.2) [(item, x.1)])).isSome = true
    rw [Fields.get?_insert]
    split
    · rfl
    · next hne =>
      have hitem : name = item := by simpa [hne] using hname
      exact contains_binding (List.mem_singleton.2 hitem) x.1

section Code

variable (hn : n.evaluator = .script functions)

include hn

/-- Expressions that write names of an outline alone. -/
lemma maintains_evaluate {code : String} (h : Expr.textStaysIn o code = true) :
    Maintains (Rendering.Above u o) (n.evaluate code) := by
  rw [evaluate, hn]
  exact ensures_onScope (Run.ensures_ofEval (Evaluator.maintains_evaluate h))

/-- Fragments that write names declared before alone. -/
lemma ensures_execute {code : String} (h : Stmt.textOutlineAfter u o code = some o') :
    Ensures (Rendering.Above u o) (Rendering.Above u o') (Rendering.Above u o)
      (n.execute code) := by
  rw [execute, hn]
  exact ensures_onScope (Evaluator.ensures_execute h)

/-- Conditions. -/
lemma maintains_test {code : String} (h : Expr.textStaysIn o code = true) :
    Maintains (Rendering.Above u o) (n.test code) :=
  .bind (maintains_evaluate hn h) fun _ => .pure _

/-- Steps. -/
lemma maintains_runStep {s : Step} (h : s.staysIn o = true) :
    Maintains (Rendering.Above u o) (n.runStep s) := by
  cases s with
  | append text => exact Render.maintains_modify fun _ => rfl
  | appendEscaped expr =>
    exact .bind (maintains_evaluate hn h) fun v => Render.maintains_modify fun _ => rfl
  | appendRaw expr =>
    exact .bind (maintains_evaluate hn h) fun v => Render.maintains_modify fun _ => rfl
  | line number => exact Render.maintains_atLine number
  | beginCapture params =>
    have hbegin : Maintains (Rendering.Above u o) (do
        let v ← n.evaluate params
        modify fun r => { r with output := "", capture := some (r.output, v) }) :=
      .bind (maintains_evaluate hn h) fun v => Render.maintains_modify fun _ => rfl
    refine .get_bind fun r => ?_
    split
    · exact .bind (maintains_fail _) fun _ => hbegin
    · exact hbegin
  | endCapture =>
    refine .get_bind fun r => ?_
    split
    · exact maintains_fail _
    · exact Render.maintains_modify fun _ => rfl

/-- The parameters of a scope. -/
lemma maintains_paramVars {params : List String} (h : params.all (Expr.textStaysIn o) = true)
    (vars : Fields Value) :
    Maintains (Rendering.Above u o) (n.paramVars vars params) := by
  induction params generalizing vars with
  | nil => exact .pure vars
  | cons param rest ih =>
    obtain ⟨hparam, hrest⟩ := Bool.and_eq_true_iff.1 h
    refine .bind (maintains_evaluate hn hparam) fun v => ?_
    cases v <;> exact ih hrest _

/-! ### Loops -/

/-- The start of a counted loop. -/
lemma ensures_startWith {start : Option String}
    (h : start.elim (some o) (Stmt.textOutlineAfter u o) = some o') :
    Ensures (Rendering.Above u o) (Rendering.Above u o') (Rendering.Above u o)
      (n.startWith start) := by
  cases start with
  | none =>
    cases h
    exact .pure ()
  | some code => exact ensures_execute hn h

/-- The condition of a counted loop. -/
lemma maintains_testOptional {condition : Option String}
    (h : condition.all (Expr.textStaysIn o) = true) :
    Maintains (Rendering.Above u o) (n.testOptional condition) := by
  cases condition with
  | none => exact .pure true
  | some code => exact maintains_test hn h

/-- The update of a counted loop. -/
lemma maintains_updateAt {update : Option String} (line : Nat)
    (h : (update.all fun code => (Stmt.textOutlineAfter u o code).isSome) = true) :
    Maintains (Rendering.Above u o) (n.updateAt line update) := by
  cases update with
  | none => exact .pure ()
  | some code =>
    obtain ⟨o', hafter⟩ := Option.isSome_iff_exists.1 h
    refine .bind (Render.maintains_atLine line) fun _ => ?_
    exact (ensures_execute hn hafter).imp_ok
      fun _ hr => hr.of_extends (Stmt.extends_textOutlineAfter hafter)

/-- The elements that a loop visits. -/
lemma maintains_elements {iterable : String} (h : Expr.textStaysIn o iterable = true) :
    Maintains (Rendering.Above u o) (n.elements iterable) := by
  refine .bind (maintains_evaluate hn h) fun v => ?_
  split
  · exact .pure _
  · exact maintains_fail _

/-- The elements that are handed to a callback. -/
lemma maintains_items {iterable : String} (h : Expr.textStaysIn o iterable = true) :
    Maintains (Rendering.Above u o) (n.items iterable) := by
  refine .bind (maintains_evaluate hn h) fun v => ?_
  split
  · exact .pure _
  · exact maintains_fail _
  · exact maintains_fail _

/-- Loops, given the outlines between which their body runs.

**Proof sketch.** A turn of the loop runs the body in a frame of its own, and comes back to an
outline that knows no less than before the turn. -/
lemma ensures_runLoop {header : LoopHeader} {inside turned : Outline} {body : Render Unit}
    (hinside : header.inside u o = some inside) (hext : inside.Extends turned)
    (hupdate : header.updateStaysIn u turned.tail = true)
    (hbody : Ensures (Rendering.Above u inside) (Rendering.Above u turned)
      (Rendering.Above u inside) body) :
    Ensures (Rendering.Above u o) (Rendering.Above u (header.behind inside)) (Rendering.Above u o)
      (n.runLoop header body) := by
  -- A turn in the frame in which the body begins.
  have hturn (around : Outline) (opening : Opening) (names : List String) (vars : Fields Value)
      (hnames : ∀ name ∈ names, Fields.contains name vars = true)
      (hopened : inside = around.enter opening names) :
      Ensures (Rendering.Above u around) (Rendering.Above u turned.tail)
        (Rendering.Above u around) (Render.inFrame (opening.frame vars) body) := by
    subst hopened
    exact Render.ensures_inFrame opening names hnames hext hbody
  cases header with
  | whileLoop condition =>
    obtain ⟨hcondition, hopened⟩ := Option.ite_none_right_eq_some.1 hinside
    cases hopened
    refine .get_bind fun r => .loop (.bind (Render.maintains_atLine _) fun _ =>
      maintains_test hn hcondition) ?_ (fun _ hr => hr) n.fuel
    exact (hturn o .block [] [] (by simp) rfl).imp_ok fun _ hr => hr.of_extends hext.tail
  | forOf binding iterable =>
    obtain ⟨hiterable, hopened⟩ := Option.ite_none_right_eq_some.1 hinside
    cases hopened
    rw [runLoop_forOf]
    refine .get_bind fun r => .bind (maintains_elements hn hiterable) fun values => ?_
    refine .forEach (fun v => .bind (Render.maintains_atLine _) fun _ => ?_) values
    exact (hturn o .block [binding] [(binding, v)] (fun _ hname => contains_binding hname v)
      rfl).imp_ok fun _ hr => hr.of_extends hext.tail
  | forIn binding object =>
    obtain ⟨hobject, hopened⟩ := Option.ite_none_right_eq_some.1 hinside
    cases hopened
    refine .get_bind fun r => .bind (maintains_evaluate hn hobject) fun v => ?_
    refine .forEach (fun v => .bind (Render.maintains_atLine _) fun _ => ?_) _
    exact (hturn o .block [binding] [(binding, v)] (fun _ hname => contains_binding hname v)
      rfl).imp_ok fun _ hr => hr.of_extends hext.tail
  | counted start condition update =>
    obtain ⟨started, hstarted, hopened⟩ := Option.bind_eq_some_iff.1 hinside
    obtain ⟨hcondition, hopened⟩ := Option.ite_none_right_eq_some.1 hopened
    cases hopened
    have hstart : (o.enter .block []).Extends started := LoopHeader.extends_start hstarted
    rw [runLoop_counted]
    refine .get_bind fun r => Render.ensures_inFrame .block [] (by simp) hstart ?_
    refine .bind (ensures_startWith hn hstarted) fun _ => .imp_error (.loop ?_ ?_ (fun _ hr => hr)
      n.fuel) fun _ hr => hr.of_extends hstart
    · exact .bind (Render.maintains_atLine _) fun _ => maintains_testOptional hn hcondition
    · refine .bind (hturn started .block [] [] (by simp) rfl) fun _ => ?_
      exact (maintains_updateAt hn _ hupdate).imp (fun _ hr => hr)
        (fun _ hr => hr.of_extends hext.tail) fun _ hr => hr.of_extends hext.tail
  | forEach iterable item index =>
    obtain ⟨hiterable, hopened⟩ := Option.ite_none_right_eq_some.1 hinside
    cases hopened
    rw [runLoop_forEach]
    refine .get_bind fun r => .bind (maintains_items hn hiterable) fun values => ?_
    refine .forEach (fun x => .bind (Render.maintains_atLine _) fun _ => ?_) values.zipIdx
    exact (hturn o .function (item :: index.toList) (callbackFrame item index x).vars
      (contains_callbackFrame item index x) rfl).imp_ok fun _ hr => hr.of_extends hext.tail

end Code

/-! ### Trees -/

/-- What leads to an outline that knows more, inside a frame, leads back around the frame. -/
lemma maintains_inFrame_of_isSome {opening : Opening} {body : Block} {x : Render Unit}
    (h : (body.outlineAfter u (o.enter opening [])).isSome = true)
    (hx : ∀ ⦃o'⦄, body.outlineAfter u (o.enter opening []) = some o' →
      Ensures (Rendering.Above u (o.enter opening [])) (Rendering.Above u o')
        (Rendering.Above u (o.enter opening [])) x) :
    Maintains (Rendering.Above u o) (Render.inFrame (opening.frame []) x) := by
  obtain ⟨o', hafter⟩ := Option.isSome_iff_exists.1 h
  have hext := Block.extends_outlineAfter hafter
  exact (Render.ensures_inFrame opening [] (by simp) hext (hx hafter)).imp_ok
    fun _ hr => hr.of_extends hext.tail

mutual

/-- **Nodes that write names declared before alone** leave what their frames stand on.

**Proof sketch.** Induction on the tree, for all outlines at once: what stands in a frame of its own
runs at the outline of that frame. -/
theorem ensures_runNode (hn : n.evaluator = .script functions) {o o' : Outline} (node : Node)
    (h : node.outlineAfter u o = some o') :
    Ensures (Rendering.Above u o) (Rendering.Above u o') (Rendering.Above u o)
      (n.runNode node) := by
  cases node with
  | step s =>
    obtain ⟨hs, h⟩ := Option.ite_none_right_eq_some.1 h
    cases h
    exact maintains_runStep hn hs
  | exec fragment => exact ensures_execute hn h
  | scope entry body =>
    rw [Node.outlineAfter] at h
    obtain ⟨hparts, h⟩ := Option.ite_none_right_eq_some.1 h
    cases h
    obtain ⟨hparams, hbody⟩ := Bool.and_eq_true_iff.1 hparts
    obtain ⟨inside, hinside⟩ := Option.isSome_iff_exists.1 hbody
    have hext := Block.extends_outlineAfter hinside
    refine .bind (maintains_paramVars hn hparams []) fun vars => ?_
    exact (Render.ensures_inScope entry _ hext (ensures_runBlock hn body hinside)).imp_ok
      fun _ hr => hr.of_extends hext.tail
  | branch condition body rest =>
    rw [Node.outlineAfter] at h
    obtain ⟨hparts, h⟩ := Option.ite_none_right_eq_some.1 h
    cases h
    obtain ⟨hparts, hrest⟩ := Bool.and_eq_true_iff.1 hparts
    obtain ⟨hcondition, hbody⟩ := Bool.and_eq_true_iff.1 hparts
    refine .bind (maintains_test hn hcondition) fun holds => ?_
    cases holds with
    | true => exact maintains_inFrame_of_isSome hbody fun _ => ensures_runBlock hn body
    | false => exact maintains_runBranches hn rest hrest
  | loop header body =>
    rw [Node.outlineAfter] at h
    obtain ⟨inside, hinside, h⟩ := Option.bind_eq_some_iff.1 h
    obtain ⟨turned, hturned, h⟩ := Option.bind_eq_some_iff.1 h
    obtain ⟨hupdate, h⟩ := Option.ite_none_right_eq_some.1 h
    cases h
    exact ensures_runLoop hn hinside (Block.extends_outlineAfter hturned) hupdate
      (ensures_runBlock hn body hturned)

/-- **Blocks that write names declared before alone** leave what their frames stand on. -/
theorem ensures_runBlock (hn : n.evaluator = .script functions) {o o' : Outline} (body : Block)
    (h : body.outlineAfter u o = some o') :
    Ensures (Rendering.Above u o) (Rendering.Above u o') (Rendering.Above u o)
      (n.runBlock body) := by
  cases body with
  | nil =>
    cases h
    exact .pure ()
  | cons head tail =>
    rw [Block.outlineAfter] at h
    obtain ⟨between, hhead, htail⟩ := Option.bind_eq_some_iff.1 h
    refine .bind (ensures_runNode hn head hhead) fun _ => ?_
    exact (ensures_runBlock hn tail htail).imp_error
      fun _ hr => hr.of_extends (Node.extends_outlineAfter hhead)

/-- Alternatives that write names declared before alone leave what their frames stand on. -/
theorem maintains_runBranches (hn : n.evaluator = .script functions) {o : Outline} (rest : Branches)
    (h : rest.staysIn u o = true) :
    Maintains (Rendering.Above u o) (n.runBranches rest) := by
  cases rest with
  | none => exact .pure ()
  | otherwise body => exact maintains_inFrame_of_isSome h fun _ => ensures_runBlock hn body
  | elseIf condition body rest =>
    obtain ⟨hparts, hrest⟩ := Bool.and_eq_true_iff.1 h
    obtain ⟨hcondition, hbody⟩ := Bool.and_eq_true_iff.1 hparts
    refine .bind (maintains_test hn hcondition) fun holds => ?_
    cases holds with
    | true => exact maintains_inFrame_of_isSome hbody fun _ => ensures_runBlock hn body
    | false => exact maintains_runBranches hn rest hrest

end

/-! ### Bodies of includes and callbacks -/

/-- A body on top of a scope, in the frame of an include, leaves the scope. -/
lemma scope_inScope_eq (entry : ScopeEntry) {names : List String} {vars : Fields Value}
    (hnames : ∀ name ∈ names, Fields.contains name vars = true) {body : Render Unit}
    (r : Rendering) (hbody : Ensures (Rendering.Above r.scope [⟨entry.opening, names⟩])
      (Rendering.Above r.scope o) (Rendering.Above r.scope o) body) :
    (Render.inScope entry vars body r).2.scope = r.scope := by
  have hopening : entry.opening ≠ .block := by
    rcases entry with ⟨params, _ | _, origin⟩ <;> exact fun h => (by cases h)
  have henter : Rendering.Above r.scope [⟨entry.opening, names⟩]
      (Render.enterScope entry vars r) := by
    rw [Rendering.Above, Render.scope_enterScope]
    exact .body r.scope hopening hnames
  rw [Render.inScope_eq, Render.scope_leaveScope]
  exact (hbody.holds henter).truncate_eq

/-- A body on top of a scope, in the frame of a callback, leaves the scope. -/
lemma maintains_callback {item : String} {index : Option String} {body : Render Unit}
    (hbody : Ensures (Rendering.Above u [⟨.function, item :: index.toList⟩])
      (Rendering.Above u o) (Rendering.Above u o) body) (x : Value × Nat) :
    Maintains (·.scope = u) (Render.inFrame (callbackFrame item index x) body) := by
  refine .within (Render.enterFrame (callbackFrame item index x)) Render.leaveFrame hbody ?_ ?_ ?_
  · rintro r rfl
    exact .body r.scope (by simp) (contains_callbackFrame item index x)
  · rintro r rfl t ht
    exact ht.truncate_eq
  · rintro r rfl t ht
    exact ht.truncate_eq

/-- The elements that are handed to a callback leave what the value of their expression does. -/
lemma scope_items (n : Renderer) (iterable : String) (r : Rendering) :
    (n.items iterable r).2.scope = (n.evaluate iterable r).2.scope := by
  unfold items
  rw [Process.bind_apply]
  rcases n.evaluate iterable r with ⟨e | v, t⟩
  · rfl
  · cases v <;> rfl

/-- **What a body declares stays in its frame.**  Let a body write names alone that it has declared
before: each name that is assigned, counted or changed in place is a parameter, or was declared by a
`var`, `let` or `const` that has surely run and is still in force.  A `var` without a value counts
only where the name is not seen around the body, since it keeps a binding that is seen; and what is
written in an isolated scope within the body has to be declared there.  Then the body of an include
leaves all frames around it and all globals as they were when its parameters had been evaluated, and
the body of a callback leaves them as they were when the list had been evaluated, however it ends.

**Proof sketch.** The body runs on top of the scope around it, and leaves it
(`ensures_runBlock`).  What stands on top is cut off at the end. -/
theorem scope_eq_of_writesOwn (functions : Functions) (escape : String → String)
    (diagnostics : Bool) (fuel : Nat) (body : Block) (r : Rendering) :
    let n : Renderer := ⟨.script functions, escape, diagnostics, fuel⟩
    (∀ (entry : ScopeEntry) (vars : Fields Value) (q : Rendering) (names : List String),
      n.paramVars [] entry.params r = (.ok vars, q) →
      (∀ name ∈ names, Fields.contains name (withLocals entry.isolated vars) = true) →
      body.writesOwn q.scope entry.opening names = true →
        (n.runNode (.scope entry body) r).2.scope = q.scope) ∧
    ∀ (iterable item : String) (index : Option String), let u := (n.evaluate iterable r).2.scope
      body.writesOwn u .function (item :: index.toList) = true →
        (n.runNode (.loop (.forEach iterable item index) body) r).2.scope = u := by
  intro n
  have hruns {u : Scope} {opening : Opening} {names : List String}
      (hown : body.writesOwn u opening names = true) :
      Maintains (Rendering.Above u [⟨opening, names⟩]) (n.runBlock body) := by
    obtain ⟨o', hafter⟩ := Option.isSome_iff_exists.1 hown
    exact (ensures_runBlock rfl body hafter).imp_ok
      fun _ ht => ht.of_extends (Block.extends_outlineAfter hafter)
  constructor
  · intro entry vars q names hparams hnames hown
    rw [runNode, Process.bind_apply_ok hparams]
    exact scope_inScope_eq entry hnames q (hruns hown)
  · intro iterable item index u hown
    have hitems : (n.items iterable r).2.scope = u := scope_items n iterable r
    have hturns (values : List Value) : Maintains (·.scope = u)
        (Process.forEach (fun x => do
          Render.atLine r.line
          Render.inFrame (callbackFrame item index x) (n.runBlock body)) values.zipIdx) := by
      refine .forEach (fun x => .bind ?_ fun _ => maintains_callback (hruns hown) x) _
      exact Maintains.of_snd fun _ hq => hq
    rw [runNode, runLoop_forEach]
    show ((n.items iterable >>= fun values => _) r).2.scope = u
    rw [Process.bind_apply]
    rcases hr : n.items iterable r with ⟨e | values, t⟩ <;> rw [hr] at hitems
    · exact hitems
    · exact (hturns values).holds hitems

/-- A body that declares a name with a `var` that has no value, and then changes it in a block. -/
theorem scope_eq_of_writesOwn_block :
    let n : Renderer := ⟨.script [], id, false, 4⟩
    let body : Block := .cons (.exec "var y;{y=x}") .nil
    let r : Rendering :=
      { scope := { globals := [("x", .null)], frames := [{ vars := [("d", .list [.null])] }] } }
    (n.runNode (.scope ⟨[], false, none⟩ body) r).2.scope = r.scope ∧
      (n.runNode (.loop (.forEach "d" "x" none) body) r).2.scope = r.scope := by
  intro n body r
  have htokens : Token.ofChars "var y;{y=x}".toList =
      .ok [.word "var", .word "y", .symbol .semicolon, .symbol .openBrace, .word "y",
        .symbol .assign, .word "x", .symbol .closeBrace] :=
    open Token in
    ofChars_cons_ok (some (.word "var")) (by rfl) <|
    ofChars_cons_ok none (by rfl) <|
    ofChars_cons_ok (some (.word "y")) (by rfl) <|
    ofChars_cons_ok (some (.symbol .semicolon)) (by rfl) <|
    ofChars_cons_ok (some (.symbol .openBrace)) (by rfl) <|
    ofChars_cons_ok (some (.word "y")) (by rfl) <|
    ofChars_cons_ok (some (.symbol .assign)) (by rfl) <|
    ofChars_cons_ok (some (.word "x")) (by rfl) <|
    ofChars_cons_ok (some (.symbol .closeBrace)) (by rfl) ofChars_nil
  have hread : Stmt.listOfText "var y;{y=x}" = .ok [.declare .var [("y", none)],
      .block [.expr (.assign (.name "y") none (.name "x"))]] := by
    rw [Stmt.listOfText, htokens]
    rfl
  have hlist : Expr.ofText "d" = .ok (.name "d") := by
    rw [Expr.ofText, show Token.ofChars "d".toList = .ok [.word "d"] from
      Token.ofChars_cons_ok (some (.word "d")) (by rfl) Token.ofChars_nil]
    rfl
  have hevaluate : (n.evaluate "d" r).2.scope = r.scope := by
    rw [evaluate, Evaluator.script_evaluate [] hlist]
    rfl
  have hown (names : List String) : body.writesOwn r.scope .function names = true := by
    simp only [body, Block.writesOwn, Block.outlineAfter, Node.outlineAfter, Stmt.textOutlineAfter,
      hread]
    rfl
  have hlocal := scope_eq_of_writesOwn [] id false 4 body r
  refine ⟨hlocal.1 ⟨[], false, none⟩ [] r [] rfl (by simp) (hown []), ?_⟩
  have hcallback := hlocal.2 "d" "x" none
  rw [hevaluate] at hcallback
  exact hcallback (hown ["x"])

/-- Two bodies that declare a name before they write it, and still change what is around them.  The
first declares it with a `var` that has no value, where the name is seen around the body.  The
second writes it in an isolated scope, from which the declaration is not seen. -/
theorem scope_ne_of_declared :
    let n : Renderer := ⟨.script [], id, false, 4⟩
    let around : Frame := { vars := [("x", .null)], isFunction := true }
    let r : Rendering := { scope := { frames := [around] } }
    let inner : Block := .cons (.exec "x=true") .nil
    let kept : Block := .cons (.exec "var x") inner
    let hidden : Block := .cons (.exec "var x=null") (.cons (.scope ⟨[], true, none⟩ inner) .nil)
    let write : Expr := .assign (.name "x") none (.literal (.bool true))
    Stmt.listOfText "var x" = .ok [.declare .var [("x", none)]] ∧
      Stmt.listOfText "var x=null" = .ok [.declare .var [("x", some (.literal .null))]] ∧
      Stmt.listOfText "x=true" = .ok [.expr write] ∧
      (n.runNode (.scope ⟨[], false, none⟩ kept) r).2.scope =
        { frames := [{ around with vars := [("x", .bool true)] }] } ∧
      (n.runNode (.scope ⟨[], false, none⟩ hidden) r).2.scope =
        { globals := [("x", .bool true)], frames := [around] } := by
  intro n around r inner kept hidden write
  have hx : Token.ofChars "x".toList = .ok [.word "x"] :=
    Token.ofChars_cons_ok (some (.word "x")) (by rfl) Token.ofChars_nil
  have hdeclare : Stmt.listOfText "var x" = .ok [.declare .var [("x", none)]] := by
    rw [Stmt.listOfText, show Token.ofChars "var x".toList = .ok [.word "var", .word "x"] from
      Token.ofChars_cons_ok (some (.word "var")) (by rfl) <|
        Token.ofChars_cons_ok none (by rfl) hx]
    rfl
  have hvalue : Stmt.listOfText "var x=null" =
      .ok [.declare .var [("x", some (.literal .null))]] := by
    rw [Stmt.listOfText, show Token.ofChars "var x=null".toList =
        .ok [.word "var", .word "x", .symbol .assign, .word "null"] from
      Token.ofChars_cons_ok (some (.word "var")) (by rfl) <|
        Token.ofChars_cons_ok none (by rfl) <|
        Token.ofChars_cons_ok (some (.word "x")) (by rfl) <|
        Token.ofChars_cons_ok (some (.symbol .assign)) (by rfl) <|
        Token.ofChars_cons_ok (some (.word "null")) (by rfl) Token.ofChars_nil]
    rfl
  have hwrite : Stmt.listOfText "x=true" = .ok [.expr write] := by
    rw [Stmt.listOfText, show Token.ofChars "x=true".toList =
        .ok [.word "x", .symbol .assign, .word "true"] from
      Token.ofChars_cons_ok (some (.word "x")) (by rfl) <|
        Token.ofChars_cons_ok (some (.symbol .assign)) (by rfl) <|
        Token.ofChars_cons_ok (some (.word "true")) (by rfl) Token.ofChars_nil]
    rfl
  have hexecute {code : String} {statements : List Stmt}
      (h : Stmt.listOfText code = .ok statements) :
      n.execute code = n.onScope (execList [] 4 statements) := by
    rw [execute, Evaluator.script_execute [] n.fuel h]
  refine ⟨hdeclare, hvalue, hwrite, ?_, ?_⟩
  · simp only [kept, inner, runNode, runBlock, hexecute hdeclare, hexecute hwrite]
    rfl
  · simp only [hidden, inner, runNode, runBlock, hexecute hvalue, hexecute hwrite]
    rfl

end Renderer

end Render

end Stencil
