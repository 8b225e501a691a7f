import Stencil.Proofs.Render.Congruence
import Stencil.Proofs.Script.Underlay

/-!
# Isolated scopes

A template that is included in an isolated scope sees its parameters and the globals, and nothing
else of what surrounds it.

## Main definitions

* `Stencil.Rendering.AlikeOutside` — renderings that differ in their frames alone.

## Main results

* `Stencil.Renderer.runNode_isolated_scope` — an isolated scope ends alike in front of any frames,
  and leaves these as they are.
-/

set_option relaxedAutoImplicit false
set_option autoImplicit false

namespace Stencil

open Script

/-! ## Frames around an isolated one -/

/-- Cut off above the frames that it was pushed on, an isolated frame leaves these as they were. -/
lemma Script.Scope.OverEnds.truncate_sealed {outer outer' : List Frame} {s t : Scope}
    (h : Scope.OverEnds (Sealed outer outer') s t) :
    (s.truncate outer.length).frames = outer ∧ (t.truncate outer'.length).frames = outer' := by
  obtain ⟨above, a, b, hs, ht, f, -, -, rfl, rfl⟩ := h.frames.exists_ends
  rw [List.append_cons] at hs ht
  rw [Scope.truncate_append hs, Scope.truncate_append ht]
  exact ⟨rfl, rfl⟩

/-! ## What code touches -/

/-- **Renderings that differ in their frames alone.** -/
def Rendering.AlikeOutside (r q : Rendering) : Prop :=
  Rendering.Alike (fun s t => s.globals = t.globals) r q

namespace Renderer

/-- Code changes the bindings alone. -/
lemma onScope_snd {α : Type} (n : Renderer) (x : Run α) (r : Rendering) :
    (n.onScope x r).2 = { r with scope := (x r.scope).2 } := by
  unfold onScope
  rcases x r.scope with ⟨(_ | _) | _, scope⟩ <;> rfl

/-- The parameters of a scope change the bindings alone. -/
lemma paramVars_snd (n : Renderer) (vars : Fields Value) (params : List String) (r : Rendering) :
    ∃ scope, (n.paramVars vars params r).2 = { r with scope } := by
  induction params generalizing vars r with
  | nil => exact ⟨r.scope, rfl⟩
  | cons param rest ih =>
    have hparam := onScope_snd n (.ofEval (n.evaluator.evaluate param)) r
    rw [paramVars, Process.bind_apply]
    rcases hv : n.evaluate param r with ⟨e | v, q⟩ <;>
      rw [evaluate] at hv <;> rw [hv] at hparam <;> dsimp only at hparam ⊢ <;> subst hparam
    · exact ⟨_, rfl⟩
    · cases v with
      | object fields =>
        obtain ⟨scope, h⟩ := ih (vars.override fields) _
        exact ⟨scope, h⟩
      | _ =>
        obtain ⟨scope, h⟩ := ih vars _
        exact ⟨scope, h⟩

/-! ## Isolated scopes -/

/-- **An isolated scope does not interfere with what surrounds it.**  From two renderings that
differ in their frames alone, and whose parameters come to the same bindings and leave the same
globals, a scope that is isolated ends alike: with the same failure if any, the same output, the
same blocks and the same globals.  The frames around it are afterwards what they were before its
body.

**Proof sketch.** Inside the isolated frame, the two renderings have the same frames above those
around it, and no code can tell what lies beneath an isolated frame.  At the end, exactly what
stands above the frames around it is cut off. -/
theorem runNode_isolated_scope (functions : Functions) (escape : String → String)
    (diagnostics : Bool) (fuel : Nat) (entry : ScopeEntry) (body : Block)
    (hentry : entry.isolated = true) {r q r' q' : Rendering} {vars : Fields Value}
    (hrq : r.AlikeOutside q) :
    let n : Renderer := ⟨.script functions, escape, diagnostics, fuel⟩
    n.paramVars [] entry.params r = (.ok vars, r') →
    n.paramVars [] entry.params q = (.ok vars, q') →
    r'.scope.globals = q'.scope.globals →
    let left := n.runNode (.scope entry body) r
    let right := n.runNode (.scope entry body) q
    left.1 = right.1 ∧ left.2.AlikeOutside right.2 ∧
      left.2.scope.frames = r'.scope.frames ∧ right.2.scope.frames = q'.scope.frames := by
  intro n hr hq hglobals left right
  let bindings := withLocals entry.isolated vars
  let S := Scope.OverEnds (Sealed r'.scope.frames q'.scope.frames)
  -- The parameters leave everything but the bindings alone.
  have hparams : r'.AlikeOutside q' := by
    obtain ⟨scope, -, rfl⟩ := hrq
    obtain ⟨s, hs⟩ := paramVars_snd n [] entry.params r
    obtain ⟨t, ht⟩ := paramVars_snd n [] entry.params { r with scope }
    rw [hr] at hs
    rw [hq] at ht
    dsimp only at hs ht
    subst hs ht
    exact ⟨t, hglobals, rfl⟩
  have henter : Rendering.Alike S (Render.enterScope entry bindings r')
      (Render.enterScope entry bindings q') :=
    Render.alike_enterScope entry bindings hparams
      ⟨hglobals, .ends ⟨{ vars := bindings, isFunction := true, isolated := entry.isolated },
        hentry, rfl, rfl, rfl⟩⟩
  have hcongruence : Scope.FrameCongruence (fun _ i => i) fun _ : Unit => S :=
    (Sealed.underlay _ _).frameCongruence
  have hbody : Process.Keeps (Rendering.Alike S) (n.runBlock body) :=
    keeps_runBlock hcongruence (Evaluator.script_keeps hcongruence functions) () body
  have hleft : left = Render.inScope entry bindings (n.runBlock body) r' :=
    Process.bind_apply_ok hr
  have hright : right = Render.inScope entry bindings (n.runBlock body) q' :=
    Process.bind_apply_ok hq
  rw [Render.inScope_eq] at hleft hright
  rw [hleft, hright]
  have hafter := (hbody henter).2
  obtain ⟨hframes, hframes'⟩ := hafter.scope.truncate_sealed
  refine ⟨hbody.outcome_eq henter, ?_, ?_, ?_⟩
  · exact Render.alike_leaveScope entry hparams hafter hafter.scope.globals_eq
  · rw [Render.scope_leaveScope]
    exact hframes
  · rw [Render.scope_leaveScope]
    exact hframes'

/-- An isolated scope that assigns to a name, once in front of a frame that binds the name and once
in front of two frames that do not. -/
theorem runNode_isolated_scope_assigning :
    let n : Renderer := ⟨.script [], id, false, 8⟩
    let node : Node := .scope ⟨["d"], true, none⟩ (.cons (.exec "s = x") .nil)
    let data : String × Value := ("d", .object [("x", .bool true)])
    let r : Rendering := { scope := { frames := [{ vars := [data, ("s", .null)] }] } }
    let q : Rendering := { scope := { frames := [{}, { vars := [data] }] } }
    (n.runNode node r).1 = (n.runNode node q).1 ∧
      (n.runNode node r).2.AlikeOutside (n.runNode node q).2 ∧
      (n.runNode node r).2.scope.frames = r.scope.frames ∧
      (n.runNode node q).2.scope.frames = q.scope.frames := by
  intro n node data r q
  have hnext : Lexeme.next 'd' [] = .ok (some (.word "d"), []) := by rfl
  have htokens : Token.ofChars "d".toList = .ok [.word "d"] := by
    rw [show "d".toList = ['d'] from rfl, Token.ofChars_cons hnext, Token.ofChars_nil]
    rfl
  have hread : Expr.ofText "d" = .ok (.name "d") := by
    rw [Expr.ofText, htokens]
    rfl
  have hevaluate : n.evaluate "d" = n.onScope (.ofEval (eval [] (.name "d"))) := by
    rw [evaluate, Evaluator.script_evaluate [] hread]
  have hr : n.paramVars [] ["d"] r = (.ok [("x", .bool true)], r) := by
    rw [paramVars, hevaluate]
    rfl
  have hq : n.paramVars [] ["d"] q = (.ok [("x", .bool true)], q) := by
    rw [paramVars, hevaluate]
    rfl
  exact runNode_isolated_scope [] id false 8 ⟨["d"], true, none⟩ (.cons (.exec "s = x") .nil) rfl
    ⟨q.scope, rfl, rfl⟩ hr hq rfl

end Renderer

end Stencil
