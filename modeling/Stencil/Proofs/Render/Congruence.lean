import Stencil.Proofs.Render.Simulation
import Stencil.Proofs.Script.Congruence

/-!
# Renderings that templates cannot tell apart

A relation between scopes that all code keeps is kept by everything that is rendered: templates
reach the bindings through code and through frames alone.  The line and the template that rendering
has come to are seen in failures alone, and only where these are located.

## Main definitions

* `Stencil.Rendering.Alike` — renderings that differ in their bindings alone.
* `Stencil.Rendering.Like` — renderings that differ in their bindings, and possibly in their place.
* `Stencil.Evaluator.Keeps` — a language whose code keeps a family of relations.

## Main results

* `Stencil.Evaluator.script_keeps`, `script_keepsWithin` — the script language keeps every frame
  congruence, and a guarded one as far as its fragments declare no more than is allowed.
* `Stencil.Renderer.simulation` — a renderer does what it does from renderings that are alike.
* `Stencil.Renderer.keepsWithin_runNode`, `keepsWithin_runBlock` — what is rendered keeps each
  relation that the code in it keeps.
-/

set_option relaxedAutoImplicit false
set_option autoImplicit false

namespace Stencil

open Script
open Process (Simulates Keeps)

/-! ## Renderings that are alike -/

/-- **Renderings that differ in their bindings alone,** and these are related. -/
def Rendering.Alike (R : Scope → Scope → Prop) (r q : Rendering) : Prop :=
  ∃ scope, R r.scope scope ∧ q = { r with scope }

/-- **Renderings that differ in their bindings,** which are related, and in their place unless it
is to be the same. -/
def Rendering.Like (located : Prop) (R : Scope → Scope → Prop) (r q : Rendering) : Prop :=
  ∃ scope line origins, R r.scope scope ∧ (located → line = r.line ∧ origins = r.origins) ∧
    q = { r with scope, line, origins }

namespace Rendering

variable {R : Scope → Scope → Prop} {r q : Rendering}

/-- The bindings of renderings that are alike. -/
lemma Alike.scope (h : Alike R r q) : R r.scope q.scope := by
  obtain ⟨scope, hscope, rfl⟩ := h
  exact hscope

/-- The bindings of renderings that are alike up to their place. -/
lemma Like.scope {located : Prop} (h : Like located R r q) : R r.scope q.scope := by
  obtain ⟨scope, line, origins, hscope, -, rfl⟩ := h
  exact hscope

/-- Renderings that are alike are so at the same place. -/
lemma alike_eq_like (R : Scope → Scope → Prop) : Alike R = Like True R := by
  funext r q
  apply propext
  constructor
  · rintro ⟨scope, hscope, rfl⟩
    exact ⟨scope, r.line, r.origins, hscope, fun _ => ⟨rfl, rfl⟩, rfl⟩
  · rintro ⟨scope, line, origins, hscope, hplace, rfl⟩
    obtain ⟨rfl, rfl⟩ := hplace trivial
    exact ⟨scope, hscope, rfl⟩

end Rendering

/-! ## Languages -/

/-- **A language whose code keeps a family of relations.** -/
structure Evaluator.Keeps {ι : Type} (R : ι → Scope → Scope → Prop) (e : Evaluator) : Prop where
  /-- Expressions keep each relation. -/
  evaluate : ∀ i code, Process.Keeps (R i) (e.evaluate code)
  /-- Fragments keep each relation. -/
  execute : ∀ i fuel code, Process.Keeps (R i) (e.execute fuel code)

/-- A language whose code keeps a family of relations, as far as its fragments pass: which of
them do may depend on whether they stand in a frame of their own. -/
structure Evaluator.KeepsWithin {ι : Type} (passes : Bool → String → Bool) (inner : ι → Bool)
    (R : ι → Scope → Scope → Prop) (e : Evaluator) : Prop where
  /-- Expressions keep each relation. -/
  evaluate : ∀ i code, Process.Keeps (R i) (e.evaluate code)
  /-- Fragments that pass keep each relation. -/
  execute : ∀ i fuel code, passes (inner i) code = true → Process.Keeps (R i) (e.execute fuel code)

/-- Where all fragments keep a relation, all may pass. -/
lemma Evaluator.Keeps.within {ι : Type} {R : ι → Scope → Scope → Prop} {e : Evaluator}
    (h : e.Keeps R) : e.KeepsWithin (fun _ _ => true) (fun _ => true) R where
  evaluate := h.evaluate
  execute i fuel code _ := h.execute i fuel code

/-- The value of an expression that can be read. -/
lemma Evaluator.script_evaluate (functions : Functions) {code : String} {e : Expr}
    (h : Expr.ofText code = .ok e) :
    (Evaluator.script functions).evaluate code = eval functions e := by
  show (Eval.ofExcept (Expr.ofText code) >>= eval functions) = _
  rw [h]
  rfl

/-- The run of a fragment that can be read. -/
lemma Evaluator.script_execute (functions : Functions) (fuel : Nat) {code : String}
    {body : List Stmt} (h : Stmt.listOfText code = .ok body) :
    (Evaluator.script functions).execute fuel code = execList functions fuel body := by
  show (Run.ofEval (.ofExcept (Stmt.listOfText code)) >>= execList functions fuel) = _
  rw [h]
  rfl

/-- Whether a fragment declares no more than is allowed.  One that cannot be read declares
nothing. -/
def Script.Stmt.textDeclaresOnly (allowed : Bool → DeclKind → Bool) (inner : Bool)
    (code : String) : Bool :=
  match Stmt.listOfText code with
  | .ok body => Stmt.listDeclaresOnly allowed inner body
  | .error _ => true

/-- **The script language keeps every frame congruence.** -/
theorem Evaluator.script_keeps {ι : Type} {enter : Frame → ι → ι} {R : ι → Scope → Scope → Prop}
    (hR : Scope.FrameCongruence enter R) (functions : Functions) :
    (Evaluator.script functions).Keeps R where
  evaluate i _ :=
    .bind (Eval.keeps_ofExcept _) fun e => (hR.congruence i).eval functions e
  execute i fuel _ :=
    .bind (Run.keeps_ofEval (Eval.keeps_ofExcept _)) fun body => hR.execList functions fuel i body

section

variable {ι : Type} {enter : Frame → ι → ι} {allowed : Bool → DeclKind → Bool} {inner : ι → Bool}
  {R : ι → Scope → Scope → Prop} (hR : Scope.GuardedCongruence enter allowed inner R)
  {located : Prop}

include hR in
/-- **The script language keeps a guarded congruence** as far as its fragments declare no more than
is allowed. -/
theorem Evaluator.script_keepsWithin (functions : Functions) :
    (Evaluator.script functions).KeepsWithin (Stmt.textDeclaresOnly allowed) inner R where
  evaluate i _ :=
    .bind (Eval.keeps_ofExcept _) fun e => (hR.congruence i).eval functions e
  execute i fuel code hcode := by
    cases hbody : Stmt.listOfText code with
    | ok body =>
      rw [script_execute functions fuel hbody]
      rw [Stmt.textDeclaresOnly, hbody] at hcode
      exact hR.execList functions fuel i body hcode
    | error f =>
      have hfault : (Evaluator.script functions).execute fuel code =
          Run.ofEval (.ofExcept (.error f)) := by
        show (Run.ofEval (.ofExcept (Stmt.listOfText code)) >>= execList functions fuel) = _
        rw [hbody]
        rfl
      rw [hfault]
      exact Run.keeps_ofEval (Eval.keeps_ofExcept _)

/-! ## What changes of a rendering keep -/

namespace Rendering

variable {S : Scope → Scope → Prop} {r q : Rendering}

/-- A change that neither looks at the bindings and the place nor touches them. -/
lemma Like.change (h : Like located S r q) {g : Rendering → Rendering}
    (hg : ∀ r scope line origins,
      g { r with scope, line, origins } = { g r with scope, line, origins }) :
    Like located S (g r) (g q) := by
  obtain ⟨scope, line, origins, hscope, hplace, rfl⟩ := h
  have hsame : g r = { g r with scope := r.scope, line := r.line, origins := r.origins } :=
    hg r r.scope r.line r.origins
  refine ⟨scope, line, origins, ?_, ?_, hg r scope line origins⟩
  · rw [hsame]
    exact hscope
  · rw [hsame]
    exact hplace

/-- A line come to, which is the same on both sides if the place is to be the same. -/
lemma Like.atLine (h : Like located S r q) {a b : Nat} (hab : located → b = a) :
    Like located S { r with line := a } { q with line := b } := by
  obtain ⟨scope, line, origins, hscope, hplace, rfl⟩ := h
  exact ⟨scope, b, origins, hscope, fun hl => ⟨hab hl, (hplace hl).2⟩, rfl⟩

/-- The line, where the place is to be the same. -/
lemma Like.line_eq (h : Like located S r q) (hl : located) : q.line = r.line := by
  obtain ⟨scope, line, origins, -, hplace, rfl⟩ := h
  exact (hplace hl).1

end Rendering

namespace Render

variable {S : Scope → Scope → Prop}

section InScope

variable {T : Scope → Scope → Prop} {r q : Rendering} (entry : ScopeEntry)

/-- Renderings that enter the scope of an include. -/
lemma like_enterScope (vars : Fields Value) (h : Rendering.Like located S r q)
    (hpush : T (r.scope.push { vars, isFunction := true, isolated := entry.isolated })
      (q.scope.push { vars, isFunction := true, isolated := entry.isolated })) :
    Rendering.Like located T (enterScope entry vars r) (enterScope entry vars q) := by
  obtain ⟨scope, line, origins, -, hplace, rfl⟩ := h
  unfold enterScope
  cases entry.origin with
  | none => exact ⟨_, line, origins, hpush, hplace, rfl⟩
  | some origin =>
    exact ⟨_, 1, origin :: origins, hpush,
      fun hl => ⟨rfl, congrArg (origin :: ·) (hplace hl).2⟩, rfl⟩

/-- Renderings that leave the scope of an include. -/
lemma like_leaveScope {S' : Scope → Scope → Prop} {r' q' : Rendering}
    (h : Rendering.Like located S r q) (h' : Rendering.Like located S' r' q')
    (hcut : T (r'.scope.truncate r.scope.depth) (q'.scope.truncate q.scope.depth)) :
    Rendering.Like located T (leaveScope entry r r') (leaveScope entry q q') := by
  obtain ⟨scope, line, origins, -, hplace, rfl⟩ := h
  obtain ⟨scope', line', origins', -, hplace', rfl⟩ := h'
  unfold leaveScope
  cases entry.origin with
  | none => exact ⟨_, line', origins', hcut, hplace', rfl⟩
  | some origin =>
    exact ⟨_, line, origins'.tail, hcut,
      fun hl => ⟨(hplace hl).1, congrArg List.tail (hplace' hl).2⟩, rfl⟩

/-- Renderings at the same place that enter the scope of an include. -/
lemma alike_enterScope (vars : Fields Value) (h : Rendering.Alike S r q)
    (hpush : T (r.scope.push { vars, isFunction := true, isolated := entry.isolated })
      (q.scope.push { vars, isFunction := true, isolated := entry.isolated })) :
    Rendering.Alike T (enterScope entry vars r) (enterScope entry vars q) := by
  rw [Rendering.alike_eq_like] at h ⊢
  exact like_enterScope entry vars h hpush

/-- Renderings at the same place that leave the scope of an include. -/
lemma alike_leaveScope {S' : Scope → Scope → Prop} {r' q' : Rendering}
    (h : Rendering.Alike S r q) (h' : Rendering.Alike S' r' q')
    (hcut : T (r'.scope.truncate r.scope.depth) (q'.scope.truncate q.scope.depth)) :
    Rendering.Alike T (leaveScope entry r r') (leaveScope entry q q') := by
  rw [Rendering.alike_eq_like] at h h' ⊢
  exact like_leaveScope entry h h' hcut

end InScope

include hR

/-- Bodies in a frame of their own. -/
lemma simulates_inFrame {i : ι} {f : Frame} {x y : Render Unit}
    (hxy : Simulates id (Rendering.Like located (R (enter f i))) x y) :
    Simulates id (Rendering.Like located (R i)) (Render.inFrame f x) (Render.inFrame f y) := by
  refine .within (enterFrame f) (enterFrame f) leaveFrame leaveFrame hxy ?_ ?_
  · rintro r _ ⟨scope, line, origins, hscope, hplace, rfl⟩
    exact ⟨_, line, origins, hR.push hscope f, hplace, rfl⟩
  · rintro r _ ⟨scope, line, origins, hscope, -, rfl⟩ r' _ ⟨after, line', origins', hafter,
      hplace, rfl⟩
    exact ⟨_, line', origins', hR.truncate f hscope hafter, hplace, rfl⟩

/-- Bodies in the scope of an include. -/
lemma simulates_inScope {i : ι} (entry : ScopeEntry) (vars : Fields Value) {x y : Render Unit}
    (hxy : ∀ j, inner j = true → Simulates id (Rendering.Like located (R j)) x y) :
    Simulates id (Rendering.Like located (R i)) (Render.inScope entry vars x)
      (Render.inScope entry vars y) := by
  let f : Frame := { vars, isFunction := true, isolated := entry.isolated }
  rw [inScope_eq, inScope_eq]
  refine .within (enterScope entry vars) (enterScope entry vars) (leaveScope entry)
    (leaveScope entry) (hxy (enter f i) (hR.inner_enter f i)) (fun r q h => ?_)
    fun r q h r' q' h' => ?_
  · exact like_enterScope entry vars h (hR.push h.scope _)
  · exact like_leaveScope entry h h' (hR.truncate _ h.scope h'.scope)

end Render

namespace Renderer

variable {n : Renderer}

/-! ## Code -/

section Code

variable (hlocated : n.diagnostics = true → located)

include hlocated

/-- Faults have the same place wherever it is told. -/
lemma failure_eq {S : Scope → Scope → Prop} {r q : Rendering} (h : Rendering.Like located S r q)
    (scope scope' : Scope) (f : Fault) :
    n.failure { r with scope } f = n.failure { q with scope := scope' } f := by
  obtain ⟨_, line, origins, -, hplace, rfl⟩ := h
  unfold failure
  split
  · next hdiagnostics =>
    obtain ⟨rfl, rfl⟩ := hplace (hlocated hdiagnostics)
    rfl
  · rfl

/-- Code run on the bindings keeps what it keeps there. -/
lemma keeps_onScope {S : Scope → Scope → Prop} {α : Type} {x : Run α} (hx : Keeps S x) :
    Keeps (Rendering.Like located S) (n.onScope x) := by
  apply Keeps.of_forall
  intro r q h
  have hfailure := failure_eq hlocated h
  obtain ⟨scope, line, origins, hscope, hplace, rfl⟩ := h
  have ho := hx.outcome_eq hscope
  have hs := (hx hscope).2
  simp only [Renderer.onScope]
  rcases hr : x r.scope with ⟨o, after⟩
  rcases hq : x scope with ⟨o', after'⟩
  rw [hr, hq] at ho hs
  dsimp only at ho hs
  subst ho
  rcases o with (e | _) | a
  · exact ⟨congrArg (Except.error ∘ Halt.fault) (hfailure after after' e), after', line, origins,
      hs, hplace, rfl⟩
  · exact ⟨rfl, after', line, origins, hs, hplace, rfl⟩
  · exact ⟨rfl, after', line, origins, hs, hplace, rfl⟩

/-- A fault that stops rendering. -/
lemma keeps_fail {S : Scope → Scope → Prop} {α : Type} (f : Fault) :
    Keeps (Rendering.Like located S) (n.fail f : Render α) :=
  Keeps.of_forall fun r q h => ⟨congrArg (Except.error ∘ Halt.fault)
    (failure_eq hlocated h r.scope q.scope f), h⟩

variable {passes : Bool → String → Bool} (hn : n.evaluator.KeepsWithin passes inner R) (i : ι)

include hn

/-- Expressions keep renderings alike. -/
lemma keeps_evaluate (code : String) : Keeps (Rendering.Like located (R i)) (n.evaluate code) :=
  keeps_onScope hlocated (Run.keeps_ofEval (hn.evaluate i code))

/-- So do fragments that declare no more than is allowed. -/
lemma keeps_execute {code : String} (h : passes (inner i) code = true) :
    Keeps (Rendering.Like located (R i)) (n.execute code) :=
  keeps_onScope hlocated (hn.execute i n.fuel code h)

/-- So do conditions. -/
lemma keeps_test (condition : String) :
    Keeps (Rendering.Like located (R i)) (n.test condition) :=
  .bind (keeps_evaluate hlocated hn i condition) fun _ => .pure _

/-! ## Nodes of parts that end alike -/

/-- Conditions end alike where what they guard does, and what is done otherwise. -/
lemma simulates_branch (condition : String) {yes yes' no no' : Render Unit}
    (hyes : Simulates id (Rendering.Like located (R i)) yes yes')
    (hno : Simulates id (Rendering.Like located (R i)) no no') :
    Simulates id (Rendering.Like located (R i)) (do if ← n.test condition then yes else no)
      (do if ← n.test condition then yes' else no') := by
  refine Simulates.bind (keeps_test hlocated hn i condition) fun holds => ?_
  cases holds with
  | true => exact hyes
  | false => exact hno

include hR

/-- **A renderer does what it does** from renderings that are alike. -/
theorem simulation :
    n.Simulation n id passes inner fun i => Rendering.Like located (R i) where
  exhausted := rfl
  fuel := rfl
  escape := rfl
  display := rfl
  evaluate i code := keeps_evaluate hlocated hn i code
  execute i _ hcode := keeps_execute hlocated hn i hcode
  fail _ fault := keeps_fail hlocated fault
  output := by
    rintro _ _ _ ⟨scope, line, origins, -, -, hq⟩
    exact ⟨scope, line, origins, hq⟩
  change _ _ _ h _ hg := h.change hg
  atLine _ _ _ h _ := h.atLine fun _ => rfl
  backTo _ _ _ h _ _ _ h' := h'.atLine fun hl => h.line_eq hl
  inFrame i frame _ _ hxy := Render.simulates_inFrame hR (hxy _ (hR.inner_enter frame i))
  inScope _ entry vars _ _ hxy := Render.simulates_inScope hR entry vars hxy

/-- Scopes of includes end alike where their bodies do. -/
lemma simulates_scope (entry : ScopeEntry) {x y : Render Unit}
    (hxy : ∀ j, inner j = true → Simulates id (Rendering.Like located (R j)) x y) :
    Simulates id (Rendering.Like located (R i))
      (do
        let vars ← n.paramVars [] entry.params
        Render.inScope entry (withLocals entry.isolated vars) x)
      (do
        let vars ← n.paramVars [] entry.params
        Render.inScope entry (withLocals entry.isolated vars) y) :=
  (simulation hR hlocated hn).scope i entry hxy

/-- Loops end alike where their bodies do. -/
lemma simulates_runLoop {header : LoopHeader} (h : header.every passes = true)
    {x y : Render Unit}
    (hxy : ∀ j, inner j = true → Simulates id (Rendering.Like located (R j)) x y) :
    Simulates id (Rendering.Like located (R i)) (n.runLoop header x) (n.runLoop header y) :=
  (simulation hR hlocated hn).runLoop i h hxy

end Code

/-! ## Nodes -/

section Nodes

variable {passes : Bool → String → Bool}

/-- **Nodes keep each relation,** if every fragment in them passes. -/
theorem keepsWithin_runNode (hR : Scope.GuardedCongruence enter allowed inner R)
    (hlocated : n.diagnostics = true → located) (hn : n.evaluator.KeepsWithin passes inner R)
    (i : ι) (node : Node) (h : node.every passes (inner i) = true) :
    Keeps (Rendering.Like located (R i)) (n.runNode node) :=
  (simulation hR hlocated hn).runNode i node h

/-- **Blocks keep each relation,** if every fragment in them passes. -/
theorem keepsWithin_runBlock (hR : Scope.GuardedCongruence enter allowed inner R)
    (hlocated : n.diagnostics = true → located) (hn : n.evaluator.KeepsWithin passes inner R)
    (i : ι) (block : Block) (h : block.every passes (inner i) = true) :
    Keeps (Rendering.Like located (R i)) (n.runBlock block) :=
  (simulation hR hlocated hn).runBlock i block h

/-- Blocks keep a frame congruence at the same place, if the code in them does. -/
theorem keeps_runBlock (hR : Scope.FrameCongruence enter R) (hn : n.evaluator.Keeps R) (i : ι)
    (block : Block) : Keeps (Rendering.Alike (R i)) (n.runBlock block) := by
  rw [Rendering.alike_eq_like]
  exact keepsWithin_runBlock hR.guarded (fun _ => trivial) hn.within i block
    (block.every_true true)

end Nodes

end Renderer

end

end Stencil
