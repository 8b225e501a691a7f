import Stencil.Proofs.Render.Congruence
import Stencil.Proofs.Script.Fuel
import Stencil.Proofs.Script.Underlay

/-!
# Blocks that are joined

A condition or a loop may be split over fragments of code, which rendering puts into a tree, or be
written as one statement in one fragment.  Both do the same to the bindings.

## Main definitions

* `Stencil.Node.statements?` — what the fragments in a node come to when they are joined.
* `Stencil.Render.Performs` — a part of rendering that does what a run of code does.

## Main results

* `Stencil.Renderer.performs_runNode`, `performs_runBlock`, `performs_runBranches` — joined
  fragments do what the tree does, whatever fuel there is.
* `Stencil.Renderer.runNode_joined` — both finish or neither does, and they finish alike.

## Design

A loop over elements has one frame for the body of the loop in the tree, and in the statement one
more for the block that the body is.  `Run.inFrame_block` does away with the second.
-/

set_option relaxedAutoImplicit false
set_option autoImplicit false

namespace Stencil

open Script

/-! ## Joining -/

/-- The expression that a text is, if it is one. -/
def Script.Expr.ofText? (code : String) : Option Expr := (Expr.ofText code).toOption

/-- The statement that starts a counted loop: a single one, or nothing. -/
def Script.Stmt.start? : Option String → Option Stmt
  | none => some .empty
  | some code =>
    match Stmt.listOfText code with
    | .ok [stmt] => some stmt
    | _ => none

/-- The condition of a counted loop, which may be missing. -/
def Script.Expr.condition? : Option String → Option (Option Expr)
  | none => some none
  | some code => (Expr.ofText? code).map some

/-- The update of a counted loop: a single expression, or nothing. -/
def Script.Expr.update? : Option String → Option (Option Expr)
  | none => some none
  | some code =>
    match Stmt.listOfText code with
    | .ok [.expr e] => some (some e)
    | _ => none

/-- A loop as a statement, given its body.  A loop with a callback is none. -/
def LoopHeader.statement? (body : Stmt) : LoopHeader → Option Stmt
  | .whileLoop condition => do return .whileLoop (← Expr.ofText? condition) body
  | .forOf binding iterable => do return .forOf binding (← Expr.ofText? iterable) body
  | .forIn binding object => do return .forIn binding (← Expr.ofText? object) body
  | .counted start condition update => do
    return .forLoop (← Stmt.start? start) (← Expr.condition? condition) (← Expr.update? update) body
  | .forEach .. => none

mutual

/-- **What the fragments in a node come to when they are joined:** the statements of a complete
fragment, and one statement for a condition or a loop.  Text that is put out and lines that are
noted come to no statement. -/
def Node.statements? : Node → Option (List Stmt)
  | .step (.append _) => some []
  | .step (.line _) => some []
  | .step _ => none
  | .exec fragment => (Stmt.listOfText fragment).toOption
  | .scope .. => none
  | .branch condition body rest => do
    return [.branch (← Expr.ofText? condition) (.block (← body.statements?)) (← rest.statement?)]
  | .loop header body => do return [← header.statement? (.block (← body.statements?))]

/-- What the fragments in a block come to, one after the other. -/
def Block.statements? : Block → Option (List Stmt)
  | .nil => some []
  | .cons head tail => do return (← head.statements?) ++ (← tail.statements?)

/-- What the alternatives of a condition come to. -/
def Branches.statement? : Branches → Option Stmt
  | .none => some .empty
  | .otherwise body => do return .block (← body.statements?)
  | .elseIf condition body rest => do
    return .branch (← Expr.ofText? condition) (.block (← body.statements?)) (← rest.statement?)

end

/-! ## Statements -/

namespace Script

/-- A single statement. -/
lemma execList_singleton (functions : Functions) (fuel : Nat) (stmt : Stmt) :
    execList functions fuel [stmt] = exec functions fuel stmt := by
  rw [execList]
  exact bind_pure (exec functions fuel stmt)

/-- Statements that follow others. -/
lemma execList_append (functions : Functions) (fuel : Nat) (first second : List Stmt) :
    execList functions fuel (first ++ second) = (do
      execList functions fuel first
      execList functions fuel second) := by
  induction first with
  | nil => rfl
  | cons stmt rest ih =>
    rw [List.cons_append, execList, execList, ih, bind_assoc]

/-- A condition in its parts. -/
lemma test_eq (functions : Functions) (e : Expr) :
    test functions e = (do return (← Run.ofEval (eval functions e)).truthy) := by
  funext s
  rw [Process.bind_apply]
  simp only [test, Run.ofEval]
  rw [Process.bind_apply]
  rcases eval functions e s with ⟨_ | _, t⟩ <;> rfl

/-- The update of a counted loop, if it has one. -/
def execUpdate (functions : Functions) : Option Expr → Run Unit
  | none => return ()
  | some e => Run.ofEval (discard (eval functions e))

/-- A counted loop in its parts. -/
lemma exec_forLoop (functions : Functions) (fuel : Nat) (start : Stmt)
    (condition update : Option Expr) (body : Stmt) :
    exec functions fuel (.forLoop start condition update body) = Run.inFrame {} (do
      exec functions fuel start
      Process.loop (testOptional functions condition) (do
        exec functions fuel body
        execUpdate functions update) fuel) := by
  cases update <;> rw [exec] <;> rfl

/-- A block that is the whole body of another frame needs no frame of its own.

**Proof sketch.** The statements in the block cannot tell two block frames from one.  Both are cut
off at the end, and what is left beneath them is the same. -/
theorem Run.inFrame_block (functions : Functions) (fuel : Nat) (vars : Fields Value)
    (body : List Stmt) :
    Run.inFrame { vars } (exec functions fuel (.block body)) =
      Run.inFrame { vars } (execList functions fuel body) := by
  funext s
  have hframes : Scope.OverEnds (Doubled s.depth) ((s.push { vars }).push {}) (s.push { vars }) :=
    ⟨rfl, .ends ⟨{}, { vars }, { vars }, s.frames, ⟨rfl, rfl⟩, ⟨rfl, rfl⟩, ⟨rfl, rfl⟩,
      fun _ => rfl, rfl, rfl, rfl⟩⟩
  have hkeeps := (Doubled.underlay s.depth).frameCongruence.execList functions fuel () body
  have houtcome := hkeeps.outcome_eq hframes
  obtain ⟨hglobals, hover⟩ := (hkeeps hframes).2
  rw [exec]
  simp only [Run.inFrame]
  generalize execList functions fuel body ((s.push { vars }).push {}) = left at *
  generalize execList functions fuel body (s.push { vars }) = right at *
  obtain ⟨above, a, b, hleft, hright, f, g, h, outer, -, -, -, -, hdepth, rfl, rfl⟩ :=
    hover.exists_ends
  -- The block frame `f` is cut off first, and the frame `g` of the loop after it.
  have hinner : (s.push { vars }).depth = (g :: outer).length := congrArg (· + 1) hdepth.symm
  rw [List.append_cons] at hleft hright
  have hdouble : left.2.truncate (s.push { vars }).depth =
      { left.2 with frames := [g] ++ outer } := by
    rw [hinner, Scope.truncate_append hleft]
    rfl
  show (left.1, (left.2.truncate (s.push { vars }).depth).truncate s.depth) =
    (right.1, right.2.truncate s.depth)
  rw [hdouble, ← hdepth, Scope.truncate_append rfl, Scope.truncate_append hright, houtcome,
    hglobals]

end Script

/-! ## Parts of rendering -/

/-- **A part of rendering that does what a run of code does:** to the bindings, and in the fault
that it stops with. -/
abbrev Render.Performs {α : Type} (x : Render α) (y : Run α) : Prop :=
  Process.Simulates (Process.renameHalt Failure.fault) (fun r s => r.scope = s) x y

namespace Render

variable {α : Type}

/-- A line that is noted does nothing to the bindings. -/
lemma performs_atLine {line : Nat} {x : Render α} {y : Run α} (h : Performs x y) :
    Performs (do Render.atLine line; x) y :=
  .before (fun _ => rfl) (fun _ _ h => h) h

/-- A body in a frame of its own. -/
lemma performs_inFrame {f : Frame} {x : Render α} {y : Run α} (h : Performs x y) :
    Performs (Render.inFrame f x) (Run.inFrame f y) := by
  refine .within (enterFrame f) (Scope.push · f) leaveFrame (fun s t => t.truncate s.depth) h ?_ ?_
  · rintro r _ rfl
    rfl
  · rintro r _ rfl r' _ rfl
    rfl

/-- A look at anything but the bindings. -/
lemma performs_get {g : Rendering → Render α} {y : Run α} (h : ∀ r, Performs (g r) y) :
    Performs (get >>= g) y :=
  fun r _ hs => h r hs

end Render

namespace Renderer

open Render (Performs)

variable {n : Renderer} {functions : Functions}

/-- Code run on the bindings. -/
lemma performs_onScope {α : Type} (x : Run α) : Performs (n.onScope x) x := by
  rintro r _ rfl
  unfold onScope
  rcases x r.scope with ⟨(_ | _) | _, scope⟩ <;> exact ⟨rfl, rfl⟩

/-- Statements in a block frame. -/
lemma performs_block {fuel : Nat} {x : Render Unit} {body : List Stmt}
    (hx : Performs x (execList functions fuel body)) :
    Performs (Render.inFrame {} x) (exec functions fuel (.block body)) := by
  rw [exec]
  exact Render.performs_inFrame hx

section Code

variable (hn : n.evaluator = .script functions)

include hn

/-- A fragment that can be read. -/
lemma performs_execute {code : String} {body : List Stmt}
    (hcode : Stmt.listOfText code = .ok body) :
    Performs (n.execute code) (execList functions n.fuel body) := by
  rw [execute, hn, Evaluator.script_execute functions n.fuel hcode]
  exact performs_onScope _

/-- An expression that can be read. -/
lemma performs_evaluate {code : String} {e : Expr} (hcode : Expr.ofText? code = some e) :
    Performs (n.evaluate code) (Run.ofEval (eval functions e)) := by
  have hread : Expr.ofText code = .ok e := by
    unfold Expr.ofText? at hcode
    cases hof : Expr.ofText code with
    | error f => rw [hof] at hcode; cases hcode
    | ok e' => rw [hof] at hcode; cases hcode; rfl
  rw [evaluate, hn, Evaluator.script_evaluate functions hread]
  exact performs_onScope _

/-- A condition that can be read. -/
lemma performs_test {code : String} {e : Expr} (hcode : Expr.ofText? code = some e) :
    Performs (n.test code) (Script.test functions e) := by
  rw [test_eq]
  exact .bind (performs_evaluate hn hcode) fun v => .pure v.truthy

/-- A condition with what it guards and what is done otherwise. -/
lemma performs_branch {condition : String} {e : Expr} {x y : Render Unit} {yes no : Stmt}
    (hcondition : Expr.ofText? condition = some e) (hyes : Performs x (exec functions n.fuel yes))
    (hno : Performs y (exec functions n.fuel no)) :
    Performs (do if ← n.test condition then x else y)
      (exec functions n.fuel (.branch e yes no)) := by
  rw [exec]
  refine .bind (performs_test hn hcondition) fun holds => ?_
  cases holds with
  | true => exact hyes
  | false => exact hno

/-- The start of a counted loop. -/
lemma performs_startWith {start : Option String} {stmt : Stmt} (h : Stmt.start? start = some stmt) :
    Performs (n.startWith start) (exec functions n.fuel stmt) := by
  cases start with
  | none =>
    cases h
    rw [exec]
    exact .pure ()
  | some code =>
    rw [Stmt.start?] at h
    split at h
    · next stmt' hcode =>
      cases h
      rw [← execList_singleton]
      exact performs_execute hn hcode
    · cases h

/-- The condition of a counted loop. -/
lemma performs_testOptional {condition : Option String} {e : Option Expr}
    (h : Expr.condition? condition = some e) :
    Performs (n.testOptional condition) (Script.testOptional functions e) := by
  cases condition with
  | none =>
    cases h
    exact .pure true
  | some code =>
    obtain ⟨e, he, rfl⟩ := Option.map_eq_some_iff.1 h
    exact performs_test hn he

/-- The update of a counted loop. -/
lemma performs_updateAt {line : Nat} {update : Option String} {e : Option Expr}
    (h : Expr.update? update = some e) :
    Performs (n.updateAt line update) (execUpdate functions e) := by
  cases update with
  | none =>
    cases h
    exact .pure ()
  | some code =>
    rw [Expr.update?] at h
    split at h
    · next e hcode =>
      cases h
      have hexec : execList functions n.fuel [.expr e] = execUpdate functions (some e) := by
        rw [execList_singleton, exec, execUpdate]
      rw [← hexec]
      exact Render.performs_atLine (performs_execute hn hcode)
    · cases h

/-- Loops.  The frame of a loop over elements takes in the block that is the body of the
statement.

**Proof sketch.** The cases of the header.  Both sides evaluate the same code and run the body as
often, in frames that bind the same.  Between these, rendering only notes lines, of which the
statement knows nothing. -/
lemma performs_runLoop {header : LoopHeader} {stmt : Stmt} {x : Render Unit} {body : List Stmt}
    (hx : Performs x (execList functions n.fuel body))
    (h : header.statement? (.block body) = some stmt) :
    Performs (n.runLoop header x) (exec functions n.fuel stmt) := by
  have heach (binding : String) (line : Nat) (values : List Value) : Performs
      (Process.forEach (fun v => do
        Render.atLine line
        Render.inFrame { vars := [(binding, v)] } x) values)
      (forBinding binding (exec functions n.fuel (.block body)) values) := by
    refine .forEach (fun v => Render.performs_atLine ?_) values
    rw [Run.inFrame_block]
    exact Render.performs_inFrame hx
  cases header with
  | whileLoop condition =>
    simp only [LoopHeader.statement?, Option.bind_eq_bind, Option.bind_eq_some_iff] at h
    obtain ⟨e, hcondition, ⟨⟩⟩ := h
    rw [exec]
    exact Render.performs_get fun r => .loop rfl
      (Render.performs_atLine (performs_test hn hcondition)) (performs_block hx) n.fuel
  | forOf binding iterable =>
    simp only [LoopHeader.statement?, Option.bind_eq_bind, Option.bind_eq_some_iff] at h
    obtain ⟨e, hiterable, ⟨⟩⟩ := h
    rw [exec]
    refine Render.performs_get fun r => .bind (performs_evaluate hn hiterable) fun v => ?_
    cases elementsOf v with
    | ok items => exact heach binding r.line items
    | error f =>
      rintro q _ rfl
      exact ⟨rfl, rfl⟩
  | forIn binding object =>
    simp only [LoopHeader.statement?, Option.bind_eq_bind, Option.bind_eq_some_iff] at h
    obtain ⟨e, hobject, ⟨⟩⟩ := h
    rw [exec]
    exact Render.performs_get fun r => .bind (performs_evaluate hn hobject) fun v =>
      heach binding r.line v.keys
  | counted start condition update =>
    simp only [LoopHeader.statement?, Option.bind_eq_bind, Option.bind_eq_some_iff] at h
    obtain ⟨s, hstart, c, hcondition, u, hupdate, ⟨⟩⟩ := h
    rw [exec_forLoop, runLoop_counted]
    refine Render.performs_get fun r => Render.performs_inFrame ?_
    refine .bind (performs_startWith hn hstart) fun _ => .loop rfl ?_ ?_ n.fuel
    · exact Render.performs_atLine (performs_testOptional hn hcondition)
    · exact .bind (performs_block hx) fun _ => performs_updateAt hn hupdate
  | forEach iterable item index => cases h

end Code

mutual

/-- **A node does what its fragments do** when they are joined.

**Proof sketch.** Induction on the tree.  Every body stands in a block frame on both sides, but for
that of a loop over elements. -/
theorem performs_runNode (hn : n.evaluator = .script functions) {node : Node} {body : List Stmt}
    (h : node.statements? = some body) :
    Performs (n.runNode node) (execList functions n.fuel body) := by
  cases node with
  | step s =>
    cases s with
    | append text =>
      cases h
      exact fun r s hs => ⟨rfl, hs⟩
    | line number =>
      cases h
      exact fun r s hs => ⟨rfl, hs⟩
    | _ => cases h
  | exec fragment =>
    rw [Node.statements?] at h
    refine performs_execute hn ?_
    cases hcode : Stmt.listOfText fragment with
    | error f => rw [hcode] at h; cases h
    | ok body' => rw [hcode] at h; cases h; rfl
  | scope entry body => cases h
  | branch condition body rest =>
    simp only [Node.statements?, Option.bind_eq_bind, Option.bind_eq_some_iff] at h
    obtain ⟨e, hcondition, stmts, hbody, alternative, hrest, ⟨⟩⟩ := h
    rw [execList_singleton]
    exact performs_branch hn hcondition (performs_block (performs_runBlock hn hbody))
      (performs_runBranches hn hrest)
  | loop header body =>
    simp only [Node.statements?, Option.bind_eq_bind, Option.bind_eq_some_iff] at h
    obtain ⟨stmts, hbody, stmt, hheader, ⟨⟩⟩ := h
    rw [execList_singleton]
    exact performs_runLoop hn (performs_runBlock hn hbody) hheader

/-- **A block does what its fragments do** one after the other. -/
theorem performs_runBlock (hn : n.evaluator = .script functions) {block : Block} {body : List Stmt}
    (h : block.statements? = some body) :
    Performs (n.runBlock block) (execList functions n.fuel body) := by
  cases block with
  | nil =>
    cases h
    exact .pure ()
  | cons head tail =>
    simp only [Block.statements?, Option.bind_eq_bind, Option.bind_eq_some_iff] at h
    obtain ⟨first, hhead, second, htail, ⟨⟩⟩ := h
    rw [execList_append]
    exact .bind (performs_runNode hn hhead) fun _ => performs_runBlock hn htail

/-- **Alternatives do what they come to** as a statement. -/
theorem performs_runBranches (hn : n.evaluator = .script functions) {rest : Branches} {stmt : Stmt}
    (h : rest.statement? = some stmt) :
    Performs (n.runBranches rest) (exec functions n.fuel stmt) := by
  cases rest with
  | none =>
    cases h
    rw [exec]
    exact .pure ()
  | otherwise body =>
    simp only [Branches.statement?, Option.bind_eq_bind, Option.bind_eq_some_iff] at h
    obtain ⟨stmts, hbody, ⟨⟩⟩ := h
    exact performs_block (performs_runBlock hn hbody)
  | elseIf condition body rest =>
    simp only [Branches.statement?, Option.bind_eq_bind, Option.bind_eq_some_iff] at h
    obtain ⟨e, hcondition, stmts, hbody, alternative, hrest, ⟨⟩⟩ := h
    exact performs_branch hn hcondition (performs_block (performs_runBlock hn hbody))
      (performs_runBranches hn hrest)

end

/-! ## Ends -/

/-- **Splitting a condition or a loop over fragments, or writing it as one statement, is the same.**
From any bindings, either both finish or neither does; if they do, they stop with the same fault or
with none, and leave the same bindings.

**Proof sketch.** With the same fuel both do the same.  A statement that finishes does so in the
same way with more fuel, so it does not matter that the two may be given different amounts of it. -/
theorem runNode_joined (functions : Functions) (escape : String → String) (diagnostics : Bool)
    {node : Node} {stmt : Stmt} (h : node.statements? = some [stmt]) (r : Rendering) :
    let split := fun fuel => Renderer.runNode ⟨.script functions, escape, diagnostics, fuel⟩ node
    let joined := fun fuel => exec functions fuel stmt
    ((∃ result q, Process.Finishes split r result q) ↔
        ∃ result s, Process.Finishes joined r.scope result s) ∧
      ∀ result q result' s, Process.Finishes split r result q →
        Process.Finishes joined r.scope result' s →
        result.mapError Failure.fault = result' ∧ q.scope = s := by
  intro split joined
  have hperforms (fuel : Nat) : Performs (split fuel) (joined fuel) := by
    rw [show joined fuel = execList functions fuel [stmt] from (execList_singleton ..).symm]
    exact performs_runNode (n := ⟨.script functions, escape, diagnostics, fuel⟩) rfl h
  have hsplit : ∀ {result q}, Process.Finishes split r result q →
      Process.Finishes joined r.scope (result.mapError Failure.fault) q.scope := by
    rintro result q ⟨fuel, hq⟩
    obtain ⟨hresult, hscope⟩ := hperforms fuel (rfl : r.scope = r.scope)
    rw [hq] at hresult hscope
    refine ⟨fuel, Prod.ext ?_ hscope.symm⟩
    rw [← hresult]
    cases result <;> rfl
  refine ⟨⟨fun ⟨result, q, hq⟩ => ⟨_, _, hsplit hq⟩, ?_⟩, ?_⟩
  · rintro ⟨result', s, fuel, hs⟩
    obtain ⟨hresult, -⟩ := hperforms fuel (rfl : r.scope = r.scope)
    rw [hs] at hresult
    rcases hq : split fuel r with ⟨(e | _) | _, q⟩
    · exact ⟨.error e, q, fuel, hq⟩
    · rw [hq] at hresult
      rcases result' with _ | _ <;> cases hresult
    · exact ⟨.ok (), q, fuel, hq⟩
  · intro result q result' s hq hs
    exact Process.Finishes.unique (fun m n hmn => refines_exec functions hmn stmt) (hsplit hq) hs

/-- A loop over elements whose body is split over two fragments on two lines. -/
theorem runNode_joined_forOf :
    let body : Block :=
      .cons (.exec "y=x") (.cons (.step (.line 2)) (.cons (.exec "d") .nil))
    let node : Node := .loop (.forOf "x" "d") body
    let stmt : Stmt := .forOf "x" (.name "d")
      (.block [.expr (.assign (.name "y") none (.name "x")), .expr (.name "d")])
    let r : Rendering := { scope := { frames := [{ vars := [("d", .list [.null, .bool true])] }] } }
    let split := fun fuel => Renderer.runNode ⟨.script [], id, true, fuel⟩ node
    let joined := fun fuel => exec [] fuel stmt
    ((∃ result q, Process.Finishes split r result q) ↔
        ∃ result s, Process.Finishes joined r.scope result s) ∧
      ∀ result q result' s, Process.Finishes split r result q →
        Process.Finishes joined r.scope result' s →
        result.mapError Failure.fault = result' ∧ q.scope = s := by
  intro body node stmt r
  have hnext : Lexeme.next 'd' [] = .ok (some (.word "d"), []) := by rfl
  have hd : Token.ofChars "d".toList = .ok [.word "d"] := by
    rw [show "d".toList = ['d'] from rfl, Token.ofChars_cons hnext, Token.ofChars_nil]
    rfl
  have hy : Lexeme.next 'y' ['=', 'x'] = .ok (some (.word "y"), ['=', 'x']) := by rfl
  have hassign : Lexeme.next '=' ['x'] = .ok (some (.symbol .assign), ['x']) := by rfl
  have hx : Lexeme.next 'x' [] = .ok (some (.word "x"), []) := by rfl
  have hyx : Token.ofChars "y=x".toList = .ok [.word "y", .symbol .assign, .word "x"] := by
    rw [show "y=x".toList = ['y', '=', 'x'] from rfl, Token.ofChars_cons hy,
      Token.ofChars_cons hassign, Token.ofChars_cons hx, Token.ofChars_nil]
    rfl
  have hnode : node.statements? = some [stmt] := by
    simp only [node, body, Node.statements?, Block.statements?, LoopHeader.statement?, Expr.ofText?,
      Expr.ofText, Stmt.listOfText, hd, hyx]
    rfl
  exact runNode_joined [] id true hnode r

end Renderer

end Stencil
