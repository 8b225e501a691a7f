import Stencil.Proofs.Render.Isolation
import Stencil.Proofs.Script.Regularity

/-!
# Rendering keeps scopes regular

Rendering binds the data, values of expressions and what loops visit.  So if the data is regular,
code meets regular scopes only: this is what is shown of a whole run.

## Main definitions

* `Stencil.Evaluator.Regular` — a language whose code keeps scopes regular.
* `Stencil.Rendering.Regular` — a rendering with a regular scope.

## Main results

* `Stencil.Evaluator.regular_script` — the script language keeps scopes regular.
* `Stencil.Renderer.provides_runNode`, `provides_runBlock` — so does every tree.
* `Stencil.Artifact.regular_render` — so does the rendering of a template on regular data, however
  it ends.
-/

set_option relaxedAutoImplicit false
set_option autoImplicit false

namespace Stencil

open Script
open Process (Provides)

/-! ## Languages -/

/-- **A language whose code keeps scopes regular** and whose expressions have regular values. -/
structure Evaluator.Regular (e : Evaluator) : Prop where
  /-- Expressions keep scopes regular, and have regular values. -/
  evaluate : ∀ code, Provides Scope.Regular Value.Regular (e.evaluate code)
  /-- Fragments keep scopes regular. -/
  execute : ∀ fuel code, Provides Scope.Regular (fun _ => True) (e.execute fuel code)

/-- **The script language keeps scopes regular,** if functions of the host give regular values. -/
theorem Evaluator.regular_script {functions : Functions} (h : functions.Regular) :
    (script functions).Regular where
  evaluate := provides_evaluate_script h
  execute fuel code := provides_execute_script h code fuel

/-! ## Parts of a rendering -/

/-- **A rendering with a regular scope.** -/
def Rendering.Regular (r : Rendering) : Prop := r.scope.Regular

namespace Render

/-- A change of anything but the bindings. -/
lemma provides_modify {g : Rendering → Rendering} (hg : ∀ r, (g r).scope = r.scope) :
    Provides Rendering.Regular (fun _ => True) (modify g : Render Unit) := by
  refine fun r hr => ⟨?_, fun _ _ => trivial⟩
  show (g r).scope.Regular
  rw [hg]
  exact hr

/-- A line that is noted. -/
lemma provides_atLine (line : Nat) : Provides Rendering.Regular (fun _ => True) (atLine line) :=
  provides_modify fun _ => rfl

variable {body : Render Unit}

/-- A body in a frame of its own, with regular bindings. -/
lemma provides_inFrame {f : Frame} (hf : (Value.object f.vars).Regular)
    (hbody : Provides Rendering.Regular (fun _ => True) body) :
    Provides Rendering.Regular (fun _ => True) (inFrame f body) :=
  .within (enterFrame f) leaveFrame hbody (fun _ hr => Scope.Regular.push hr hf)
    fun _ _ _ ht => Scope.Regular.truncate ht _

/-- A body in the scope of an include, with regular bindings. -/
lemma provides_inScope (entry : ScopeEntry) {vars : Fields Value}
    (hvars : (Value.object vars).Regular)
    (hbody : Provides Rendering.Regular (fun _ => True) body) :
    Provides Rendering.Regular (fun _ => True) (inScope entry vars body) := by
  rw [inScope_eq]
  refine .within (enterScope entry vars) (leaveScope entry) hbody (fun r hr => ?_)
    fun r _ t ht => ?_
  · have hpush := Scope.Regular.push hr
      (f := { vars, isFunction := true, isolated := entry.isolated }) hvars
    unfold Rendering.Regular enterScope
    cases entry.origin <;> exact hpush
  · rw [Rendering.Regular, scope_leaveScope]
    exact ht.truncate _

end Render

namespace Renderer

variable {n : Renderer}

/-- A fault that stops rendering. -/
lemma provides_fail {α : Type} {R : α → Prop} (f : Fault) :
    Provides Rendering.Regular R (n.fail f : Render α) :=
  fun _ hr => ⟨hr, fun _ h => by cases h⟩

/-- Code run on the bindings. -/
lemma provides_onScope {α : Type} {R : α → Prop} {x : Run α}
    (hx : Provides Scope.Regular R x) : Provides Rendering.Regular R (n.onScope x) := by
  intro r hr
  obtain ⟨ht, hR⟩ := hx hr
  rw [Rendering.Regular, onScope_snd]
  refine ⟨ht, fun a ha => hR ?_⟩
  unfold onScope at ha
  rcases hxr : x r.scope with ⟨(f | _) | b, t⟩ <;> rw [hxr] at ha <;> cases ha
  rfl

/-- What the frame of a callback binds is regular. -/
lemma regular_callbackFrame (item : String) (index : Option String) {v : Value}
    (hv : v.Regular) (position : Nat) :
    (Value.object (callbackFrame item index (v, position)).vars).Regular := by
  have hitem := Value.Regular.empty.insert item hv
  cases index with
  | none => exact hitem
  | some index => exact hitem.insert index (.number _)

/-- The object of an isolated scope is bound beside its own members. -/
lemma regular_withLocals (isolated : Bool) {vars : Fields Value}
    (h : (Value.object vars).Regular) : (Value.object (withLocals isolated vars)).Regular := by
  unfold withLocals
  split
  · exact h.insert "locals" h
  · exact h

section Code

variable (hn : n.evaluator.Regular)

include hn

/-- Expressions keep the scope regular, and have regular values. -/
lemma provides_evaluate (code : String) :
    Provides Rendering.Regular Value.Regular (n.evaluate code) :=
  provides_onScope (Run.provides_ofEval (hn.evaluate code))

/-- Fragments keep the scope regular. -/
lemma provides_execute (code : String) :
    Provides Rendering.Regular (fun _ => True) (n.execute code) :=
  provides_onScope (hn.execute n.fuel code)

/-- So do conditions. -/
lemma provides_test (code : String) : Provides Rendering.Regular (fun _ => True) (n.test code) :=
  (provides_evaluate hn code).bind fun _ _ => .pure trivial

/-- So do steps. -/
lemma provides_runStep (s : Step) : Provides Rendering.Regular (fun _ => True) (n.runStep s) := by
  cases s with
  | append text => exact Render.provides_modify fun _ => rfl
  | appendEscaped expr =>
    exact (provides_evaluate hn expr).bind fun _ _ => Render.provides_modify fun _ => rfl
  | appendRaw expr =>
    exact (provides_evaluate hn expr).bind fun _ _ => Render.provides_modify fun _ => rfl
  | line number => exact Render.provides_atLine number
  | beginCapture params =>
    have hbegin : Provides Rendering.Regular (fun _ => True) (do
        let v ← n.evaluate params
        modify fun r => { r with output := "", capture := some (r.output, v) }) :=
      (provides_evaluate hn params).bind fun _ _ => Render.provides_modify fun _ => rfl
    refine .get_bind fun r _ => ?_
    split
    · exact (provides_fail (R := fun _ => True) _).bind fun _ _ => hbegin
    · exact hbegin
  | endCapture =>
    refine .get_bind fun r _ => ?_
    split
    · exact provides_fail _
    · exact Render.provides_modify fun _ => rfl

/-- The bindings of a scope are regular. -/
lemma provides_paramVars (params : List String) {vars : Fields Value}
    (hvars : (Value.object vars).Regular) :
    Provides Rendering.Regular (fun vars => (Value.object vars).Regular)
      (n.paramVars vars params) := by
  induction params generalizing vars with
  | nil => exact .pure hvars
  | cons param rest ih =>
    refine (provides_evaluate hn param).bind fun v hv => ?_
    cases hv with
    | object _ hentries => exact ih (hvars.override hentries)
    | _ => exact ih hvars

/-! ## Loops -/

/-- The elements that a loop visits are regular. -/
lemma provides_elements (iterable : String) :
    Provides Rendering.Regular (∀ v ∈ ·, v.Regular) (n.elements iterable) := by
  refine (provides_evaluate hn iterable).bind fun v hv => ?_
  split
  next items hitems => exact .pure (elementsOf_regular hv hitems)
  · exact provides_fail _

/-- So are those that are handed to a callback. -/
lemma provides_items (iterable : String) :
    Provides Rendering.Regular (∀ v ∈ ·, v.Regular) (n.items iterable) := by
  refine (provides_evaluate hn iterable).bind fun v hv => ?_
  split
  · exact .pure hv.elements
  · exact provides_fail _
  · exact provides_fail _

/-- The start of a counted loop. -/
lemma provides_startWith (start : Option String) :
    Provides Rendering.Regular (fun _ => True) (n.startWith start) := by
  cases start with
  | none => exact .pure trivial
  | some code => exact provides_execute hn code

/-- The condition of a counted loop. -/
lemma provides_testOptional (condition : Option String) :
    Provides Rendering.Regular (fun _ => True) (n.testOptional condition) := by
  cases condition with
  | none => exact .pure trivial
  | some code => exact provides_test hn code

/-- The update of a counted loop. -/
lemma provides_updateAt (line : Nat) (update : Option String) :
    Provides Rendering.Regular (fun _ => True) (n.updateAt line update) := by
  cases update with
  | none => exact .pure trivial
  | some code => exact (Render.provides_atLine line).bind fun _ _ => provides_execute hn code

/-- A loop keeps the scope regular, if its body does.

**Proof sketch.** The cases of the header.  What a turn binds is regular, since it comes from a
regular value: an element, a key, or an element with its position. -/
lemma provides_runLoop (header : LoopHeader) {body : Render Unit}
    (hbody : Provides Rendering.Regular (fun _ => True) body) :
    Provides Rendering.Regular (fun _ => True) (n.runLoop header body) := by
  -- A turn with a value bound, at the line of the loop.
  have hturn (line : Nat) {f : Frame} (hf : (Value.object f.vars).Regular) :
      Provides Rendering.Regular (fun _ => True)
        (do Render.atLine line; Render.inFrame f body) :=
    (Render.provides_atLine line).bind fun _ _ => Render.provides_inFrame hf hbody
  have heach (line : Nat) (binding : String) (v : Value) (hv : v.Regular) :
      Provides Rendering.Regular (fun _ => True)
        (do Render.atLine line; Render.inFrame { vars := [(binding, v)] } body) :=
    hturn line (Value.Regular.empty.insert binding hv)
  cases header with
  | whileLoop condition =>
    exact .get_bind fun r _ => .loop ((Render.provides_atLine _).bind fun _ _ =>
      provides_test hn condition) (Render.provides_inFrame .empty hbody) n.fuel
  | forOf binding iterable =>
    rw [runLoop_forOf]
    exact .get_bind fun r _ => (provides_elements hn iterable).bind fun values hvalues =>
      .forEach (heach _ binding) hvalues
  | forIn binding object =>
    exact .get_bind fun r _ => (provides_evaluate hn object).bind fun v _ =>
      .forEach (heach _ binding) (.keys v)
  | counted start condition update =>
    rw [runLoop_counted]
    refine .get_bind fun r _ => Render.provides_inFrame .empty ?_
    refine (provides_startWith hn start).bind fun _ _ => .loop ?_ ?_ n.fuel
    · exact (Render.provides_atLine _).bind fun _ _ => provides_testOptional hn condition
    · exact (Render.provides_inFrame .empty hbody).bind fun _ _ => provides_updateAt hn _ update
  | forEach iterable item index =>
    rw [runLoop_forEach]
    refine .get_bind fun r _ => (provides_items hn iterable).bind fun values hvalues => ?_
    have hpair (x : Value × Nat) (hx : x.1.Regular) :
        Provides Rendering.Regular (fun _ => True)
          (do Render.atLine r.line; Render.inFrame (callbackFrame item index x) body) :=
      hturn r.line (regular_callbackFrame item index hx x.2)
    exact .forEach hpair fun x hx => hvalues x.1 (List.fst_mem_of_mem_zipIdx hx)

end Code

/-! ## Trees -/

mutual

/-- **Every node keeps the scope regular,** however its run ends.

**Proof sketch.** Induction on the tree.  The frames that a run enters bind regular values, and they
are gone in the end. -/
theorem provides_runNode (hn : n.evaluator.Regular) (node : Node) :
    Provides Rendering.Regular (fun _ => True) (n.runNode node) := by
  cases node with
  | step s => exact provides_runStep hn s
  | exec fragment => exact provides_execute hn fragment
  | scope entry body =>
    rw [runNode]
    exact (provides_paramVars hn entry.params .empty).bind fun vars hvars =>
      Render.provides_inScope entry (regular_withLocals _ hvars) (provides_runBlock hn body)
  | branch condition body rest =>
    rw [runNode]
    refine (provides_test hn condition).bind fun holds _ => ?_
    cases holds with
    | true => exact Render.provides_inFrame .empty (provides_runBlock hn body)
    | false => exact provides_runBranches hn rest
  | loop header body =>
    rw [runNode]
    exact provides_runLoop hn header (provides_runBlock hn body)

/-- **Every block keeps the scope regular.** -/
theorem provides_runBlock (hn : n.evaluator.Regular) (body : Block) :
    Provides Rendering.Regular (fun _ => True) (n.runBlock body) := by
  cases body with
  | nil => exact .pure trivial
  | cons head tail =>
    rw [runBlock]
    exact (provides_runNode hn head).bind fun _ _ => provides_runBlock hn tail

/-- So do the alternatives of a condition. -/
theorem provides_runBranches (hn : n.evaluator.Regular) (rest : Branches) :
    Provides Rendering.Regular (fun _ => True) (n.runBranches rest) := by
  cases rest with
  | none => exact .pure trivial
  | otherwise body =>
    rw [runBranches]
    exact Render.provides_inFrame .empty (provides_runBlock hn body)
  | elseIf condition body rest =>
    rw [runBranches]
    refine (provides_test hn condition).bind fun holds _ => ?_
    cases holds with
    | true => exact Render.provides_inFrame .empty (provides_runBlock hn body)
    | false => exact provides_runBranches hn rest

end

end Renderer

/-! ## Templates -/

namespace Artifact

/-- What a template begins with is regular, if its data and its global bindings are. -/
lemma regular_startScope (a : Artifact) {data : Value} (hdata : data.Regular)
    (hglobals : ∀ v ∈ a.options.globals, v.Regular) : (a.startScope data).Regular := by
  have hlocals := Value.Regular.empty.insert "locals" hdata
  refine ⟨?_, List.forall_mem_singleton.2 ?_⟩
  · unfold startScope
    dsimp only
    split
    next fields heq => exact hglobals _ heq
    · exact .empty
  · dsimp only [startScope]
    split
    next fields _ _ =>
      cases hdata with
      | object _ hentries => exact hlocals.override hentries
    · exact hlocals

/-- **A template on regular data** is rendered in regular scopes: its blocks leave one, however
their run ends. -/
theorem regular_render (a : Artifact) {evaluator : Evaluator} (he : evaluator.Regular)
    {data : Value} (hdata : data.Regular) (hglobals : ∀ v ∈ a.options.globals, v.Regular)
    (fuel : Nat) (block : Block) :
    let n : Renderer := ⟨evaluator, a.options.escape, a.options.diagnostics, fuel⟩
    (n.runBlock block { scope := a.startScope data, origins := [a.origin] }).2.scope.Regular := by
  have hstart : Rendering.Regular { scope := a.startScope data, origins := [a.origin] } :=
    a.regular_startScope hdata hglobals
  exact (Renderer.provides_runBlock he block hstart).1

end Artifact

end Stencil
