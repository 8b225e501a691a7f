import Stencil.Proofs.Render.Isolation

/-!
# Scope discipline

However code ends, well or with a fault, it leaves as many frames as it found, and each of them of
the kind it was.  Rendering does so too, and it leaves the templates that are being rendered as they
were; an include goes back to the line it stands on.

## Main definitions

* `Stencil.Script.Scope.kinds` — the kinds of all frames.
* `Stencil.Rendering.Kept` — a rendering with given kinds of frames and given templates.

## Main results

* `Stencil.Script.Scope.sameKinds_frameCongruence` — names are read, assigned and declared without a
  change to the kinds of frames.
* `Stencil.Renderer.simulation_kept` — everything that a tree is run by keeps them, and the
  templates.
* `Stencil.Renderer.disciplined` — so do expressions, statements and blocks.

## Design

That code keeps something of a scope is the special case of a congruence in which the scopes that
are related are the same.  So nothing has to be gone through here that code does to the bindings.
-/

set_option relaxedAutoImplicit false
set_option autoImplicit false

namespace Stencil

open Script
open Process (Simulates Keeps)

/-! ## Kinds of frames -/

namespace Script

/-- The kind of a frame: whether `var` declarations are bound in it, and whether it hides the
frames around it. -/
def Frame.kind (f : Frame) : Bool × Bool := (f.isFunction, f.isolated)

namespace Scope

/-- **The kinds of all frames,** innermost first. -/
def kinds (s : Scope) : List (Bool × Bool) := s.frames.map Frame.kind

/-- The same scope on both sides, with given kinds of frames. -/
def SameKinds (kinds : List (Bool × Bool)) (s t : Scope) : Prop := s = t ∧ s.kinds = kinds

/-- Frames that bind more are of the same kinds. -/
lemma kinds_of_grows {frames after : List Frame} (h : List.Forall₂ Frame.Grows frames after) :
    after.map Frame.kind = frames.map Frame.kind := by
  induction h with
  | nil => rfl
  | cons hfg _ ih =>
    rw [List.map_cons, List.map_cons, ih, Frame.kind, Frame.kind, hfg.isFunction_eq,
      hfg.isolated_eq]

/-- An assignment leaves the kinds of frames. -/
@[simp]
lemma kinds_assign (s : Scope) (name : String) (value : Value) :
    (s.assign name value).kinds = s.kinds := by
  unfold assign
  split
  · next frames h => exact kinds_of_grows (grows_replaceIn? h)
  · rfl

/-- So does a declaration in a function frame. -/
@[simp]
lemma kinds_declareVar (s : Scope) (name : String) (value : Value) :
    (s.declareVar name value).kinds = s.kinds := by
  unfold declareVar
  split
  · next frames h => exact kinds_of_grows (grows_declareVarIn? h)
  · rfl

/-- So does a declaration in the innermost frame. -/
@[simp]
lemma kinds_declare (s : Scope) (name : String) (value : Value) :
    (s.declare name value).kinds = s.kinds := by
  unfold declare kinds
  cases s.frames <;> rfl

/-- What lies beneath a frame is left when this is cut off. -/
lemma kinds_truncate {s t : Scope} {kind : Bool × Bool} (h : t.kinds = kind :: s.kinds) :
    (t.truncate s.depth).kinds = s.kinds := by
  have hlen : t.frames.length = s.frames.length + 1 := by
    simpa [kinds] using congrArg List.length h
  unfold kinds at h ⊢
  rw [truncate, List.map_drop, h, hlen, depth, Nat.add_sub_cancel_left]
  rfl

/-- **Code changes the bindings of frames, not their kinds.** -/
theorem sameKinds_frameCongruence :
    FrameCongruence (fun f kinds => f.kind :: kinds) SameKinds where
  congruence kinds :=
    { get?_eq := by
        rintro s _ ⟨rfl, -⟩ name
        rfl
      assign := by
        rintro s _ ⟨rfl, hkinds⟩ name value
        exact ⟨rfl, by rw [kinds_assign, hkinds]⟩ }
  declare := by
    rintro kinds s _ ⟨rfl, hkinds⟩ name value
    exact ⟨rfl, by rw [kinds_declare, hkinds]⟩
  declareVar := by
    rintro kinds s _ ⟨rfl, hkinds⟩ name value
    exact ⟨rfl, by rw [kinds_declareVar, hkinds]⟩
  push := by
    rintro kinds s _ ⟨rfl, rfl⟩ f
    exact ⟨rfl, rfl⟩
  truncate := by
    rintro _ s _ t _ f ⟨rfl, rfl⟩ ⟨rfl, hkinds⟩
    exact ⟨rfl, kinds_truncate hkinds⟩

end Scope

/-- What keeps the same scope with its kinds of frames leaves these as they were. -/
lemma kinds_snd {ε α : Type} {x : ExceptT ε (StateM Scope) α} {s : Scope}
    (hx : Keeps (Scope.SameKinds s.kinds) x) : (x s).2.kinds = s.kinds :=
  (hx ⟨rfl, rfl⟩).2.2

end Script

/-! ## Rendering -/

/-- **The same rendering on both sides,** with given kinds of frames and given templates. -/
def Rendering.Kept (i : List (Bool × Bool) × List Origin) (r q : Rendering) : Prop :=
  r = q ∧ r.scope.kinds = i.1 ∧ r.origins = i.2

namespace Renderer

variable {n : Renderer}

/-- Code on the bindings keeps their kinds of frames, and leaves the templates alone. -/
lemma keeps_onScope_kept (i : List (Bool × Bool) × List Origin) {α : Type} {x : Run α}
    (hx : Keeps (Scope.SameKinds i.1) x) : Keeps (Rendering.Kept i) (n.onScope x) := by
  apply Keeps.of_forall
  rintro r _ ⟨rfl, hkinds, horigins⟩
  refine ⟨rfl, rfl, ?_, ?_⟩
  · rw [onScope_snd]
    exact (hx ⟨rfl, hkinds⟩).2.2
  · rw [onScope_snd]
    exact horigins

/-- **Everything that a tree is run by keeps the kinds of frames and the templates,** if the code
keeps the kinds.

**Proof sketch.** Code keeps the kinds by assumption, and everything else does not touch the
bindings.  A frame or a scope that is entered puts one kind on top, which is cut off again when it
is left. -/
theorem simulation_kept (hn : n.evaluator.Keeps Scope.SameKinds) :
    n.Simulation n id (fun _ _ => true) (fun _ => true) Rendering.Kept where
  exhausted := rfl
  fuel := rfl
  escape := rfl
  display := rfl
  evaluate i code := keeps_onScope_kept i (Run.keeps_ofEval (hn.evaluate i.1 code))
  execute i code _ := keeps_onScope_kept i (hn.execute i.1 n.fuel code)
  fail i fault := Keeps.of_forall fun r q h => ⟨by rw [h.1], h⟩
  output := by
    rintro _ r _ ⟨rfl, -⟩
    exact ⟨r.scope, r.line, r.origins, rfl⟩
  change := by
    rintro i r _ ⟨rfl, hkinds, horigins⟩ g hg
    have hsame : g r = { g r with scope := r.scope, line := r.line, origins := r.origins } :=
      hg r r.scope r.line r.origins
    refine ⟨rfl, ?_, ?_⟩
    · rw [hsame]
      exact hkinds
    · rw [hsame]
      exact horigins
  atLine := by
    rintro i r _ ⟨rfl, hkept⟩ line
    exact ⟨rfl, hkept⟩
  backTo := by
    rintro i r _ ⟨rfl, -⟩ j r' _ ⟨rfl, hkept⟩
    exact ⟨rfl, hkept⟩
  inFrame i frame x y hxy := by
    refine .within (Render.enterFrame frame) (Render.enterFrame frame) Render.leaveFrame
      Render.leaveFrame (hxy (frame.kind :: i.1, i.2) rfl) ?_ ?_
    · rintro r _ ⟨rfl, hkinds, horigins⟩
      exact ⟨rfl, congrArg (frame.kind :: ·) hkinds, horigins⟩
    · rintro r _ ⟨rfl, hkinds, -⟩ r' _ ⟨rfl, hkinds', horigins⟩
      rw [← hkinds] at hkinds'
      exact ⟨rfl, (Scope.kinds_truncate hkinds').trans hkinds, horigins⟩
  inScope i entry vars x y hxy := by
    let frame : Frame := { vars, isFunction := true, isolated := entry.isolated }
    rw [Render.inScope_eq, Render.inScope_eq]
    refine .within (Render.enterScope entry vars) (Render.enterScope entry vars)
      (Render.leaveScope entry) (Render.leaveScope entry)
      (hxy (frame.kind :: i.1, entry.origin.toList ++ i.2) rfl) ?_ ?_
    · rintro r _ ⟨rfl, hkinds, horigins⟩
      unfold Render.enterScope
      cases entry.origin with
      | none => exact ⟨rfl, congrArg (frame.kind :: ·) hkinds, horigins⟩
      | some origin =>
        exact ⟨rfl, congrArg (frame.kind :: ·) hkinds, congrArg (origin :: ·) horigins⟩
    · rintro r _ ⟨rfl, hkinds, -⟩ r' _ ⟨rfl, hkinds', horigins⟩
      rw [← hkinds] at hkinds'
      have hcut := (Scope.kinds_truncate hkinds').trans hkinds
      refine ⟨rfl, by rwa [Render.scope_leaveScope], ?_⟩
      unfold Render.leaveScope
      cases horigin : entry.origin with
      | none => rwa [horigin] at horigins
      | some origin =>
        rw [horigin] at horigins
        exact congrArg List.tail horigins

/-- An include goes back to the line it stands on, however it ends. -/
lemma line_scope (n : Renderer) (params : List String) (isolated : Bool) (origin : Origin)
    (body : Block) (r : Rendering) :
    (n.runNode (.scope ⟨params, isolated, some origin⟩ body) r).2.line = r.line := by
  obtain ⟨scope, hparams⟩ := paramVars_snd n [] params r
  rw [runNode, Process.bind_apply]
  rcases hvars : n.paramVars [] params r with ⟨e | vars, q⟩ <;> rw [hvars] at hparams <;>
    dsimp only at hparams ⊢ <;> subst hparams
  · rfl
  · rfl

/-- In a scope without an origin it is the same template that goes on: the line is the one that its
body has come to. -/
lemma line_scope_none (n : Renderer) (params : List String) (isolated : Bool) (body : Block)
    (r : Rendering) :
    (n.runNode (.scope ⟨params, isolated, none⟩ body) r).2.line =
      match n.paramVars [] params r with
      | (.ok vars, q) =>
        (n.runBlock body
          (Render.enterScope ⟨params, isolated, none⟩ (withLocals isolated vars) q)).2.line
      | (.error _, _) => r.line := by
  obtain ⟨scope, hparams⟩ := paramVars_snd n [] params r
  rw [runNode, Process.bind_apply]
  rcases hvars : n.paramVars [] params r with ⟨e | vars, q⟩
  · rw [hvars] at hparams
    dsimp only at hparams ⊢
    rw [hparams]
  · rfl

/-- **Scope discipline on every outcome.**  Expressions and statements leave the frames as many and
of the kinds that they were, whether they end well or not.  So does every block that is rendered;
it leaves the templates that are being rendered as they were, and an include goes back to the line
it stands on.  Includes are the scopes with an origin: `Pass.splice` makes no others.  In a scope
without one it is the same template that goes on, and the line is the one that its body has come to.

**Proof sketch.** No way in which code reaches the bindings changes the kinds of frames.  A frame
that is pushed, or a template that is entered, is above the ones there are, and both are taken back
when its body ends. -/
theorem disciplined (functions : Functions) :
    (∀ e s, (eval functions e s).2.kinds = s.kinds) ∧
    (∀ fuel stmt s, (exec functions fuel stmt s).2.kinds = s.kinds) ∧
    ∀ escape diagnostics fuel,
      let n : Renderer := ⟨.script functions, escape, diagnostics, fuel⟩
      (∀ block r, (n.runBlock block r).2.scope.kinds = r.scope.kinds ∧
        (n.runBlock block r).2.origins = r.origins) ∧
      (∀ params isolated origin body r,
        (n.runNode (.scope ⟨params, isolated, some origin⟩ body) r).2.line = r.line) ∧
      ∀ params isolated body r,
        (n.runNode (.scope ⟨params, isolated, none⟩ body) r).2.line =
          match n.paramVars [] params r with
          | (.ok vars, q) =>
            (n.runBlock body
              (Render.enterScope ⟨params, isolated, none⟩ (withLocals isolated vars) q)).2.line
          | (.error _, _) => r.line := by
  have hR := Scope.sameKinds_frameCongruence
  refine ⟨fun e s => kinds_snd ((hR.congruence _).eval functions e), fun fuel stmt s => ?_, ?_⟩
  · exact kinds_snd (hR.guarded.exec functions fuel _ stmt (Stmt.declaresOnly_true true stmt))
  · intro escape diagnostics fuel n
    have hsimulation : n.Simulation n id (fun _ _ => true) (fun _ => true) Rendering.Kept :=
      simulation_kept (Evaluator.script_keeps hR functions)
    refine ⟨fun block r => ?_, line_scope n, line_scope_none n⟩
    have hkeeps := hsimulation.runBlock (r.scope.kinds, r.origins) block (block.every_true true)
    exact (hkeeps ⟨rfl, rfl, rfl⟩).2.2

end Renderer

end Stencil
