import Stencil.Proofs.Render.Splicing
import Stencil.Proofs.Template.Tracking

/-!
# Rendering without line tracking

Tracking lines is seen in failures alone: without it they do not say where they arose.

## Main definitions

* `Stencil.Failure.unplaced` — a failure that does not say where it arose.
* `Stencil.Renderer.unlocated` — a renderer that does not locate failures.

## Main results

* `Stencil.Renderer.simulation_unlocated` — a renderer does what it does where it locates failures.
* `Stencil.Renderer.builtMatch_withoutLines` — a program builds a tree that does the same without
  the instructions that tell lines.
* `Stencil.Artifact.render_untracked` — an artifact renders alike with lines tracked and without.
* `Stencil.Workspace.renders_alike_untracked` — so does a text that is compiled either way.

## Design

The two programs are compared in two steps.  The same tree is run by both renderers, and then two
trees are run by the renderer that does not look at lines; only to it do the two trees do the same.
-/

set_option relaxedAutoImplicit false
set_option autoImplicit false

namespace Stencil

open Script
open Process (Simulates renameHalt)
open Render (Matches)

/-- **The failure** without the place where it arose. -/
def Failure.unplaced (f : Failure) : Failure := { f with place := none }

namespace Renderer

/-! ## The same tree -/

/-- **The renderer** with failures not located. -/
def unlocated (n : Renderer) : Renderer := { n with diagnostics := false }

variable (n : Renderer)

/-- Code run on the bindings ends as it does where failures are located. -/
lemma simulates_onScope_unlocated {α : Type} (x : Run α) :
    Simulates (renameHalt Failure.unplaced) Eq (n.onScope x) (n.unlocated.onScope x) := by
  rintro r _ rfl
  simp only [onScope]
  rcases x r.scope with ⟨(f | _) | a, scope⟩ <;> exact ⟨rfl, rfl⟩

/-- **A renderer does what it does where it locates failures,** except that it does not say where
they arose. -/
theorem simulation_unlocated :
    n.Simulation n.unlocated (renameHalt Failure.unplaced) (fun _ _ => true) (fun _ => true)
      (fun _ : Unit => Eq) where
  exhausted := rfl
  fuel := rfl
  escape := rfl
  display := rfl
  evaluate _ _ := simulates_onScope_unlocated n _
  execute _ _ _ := simulates_onScope_unlocated n _
  fail _ _ := by rintro r _ rfl; exact ⟨rfl, rfl⟩
  output := by rintro _ r _ rfl; exact ⟨r.scope, r.line, r.origins, rfl⟩
  change := by rintro _ r _ rfl g _; rfl
  atLine := by rintro _ r _ rfl line; rfl
  backTo := by rintro _ r _ rfl _ r' _ rfl; rfl
  inFrame _ frame _ _ hxy :=
    .within (Render.enterFrame frame) (Render.enterFrame frame) Render.leaveFrame Render.leaveFrame
      (hxy () rfl) (by rintro r _ rfl; rfl) (by rintro r _ rfl r' _ rfl; rfl)
  inScope _ entry vars _ _ hxy := by
    rw [Render.inScope_eq, Render.inScope_eq]
    exact .within (Render.enterScope entry vars) (Render.enterScope entry vars)
      (Render.leaveScope entry) (Render.leaveScope entry) (hxy () rfl)
      (by rintro r _ rfl; rfl) (by rintro r _ rfl r' _ rfl; rfl)

variable {n}

/-! ## The same program without lines -/

/-- A line come to is not seen but in failures. -/
lemma matches_atLine (line : Nat) : Matches (Render.atLine line) (pure ()) := by
  rintro r _ ⟨scope, line', origins, hscope, -, rfl⟩
  exact ⟨rfl, scope, line', origins, hscope, False.elim, rfl⟩

/-- One line more on the one side. -/
lemma NodesMatch.line_cons {a b : List Node} (h : n.NodesMatch a b) (line : Nat) :
    n.NodesMatch (.step (.line line) :: a) b := by
  unfold NodesMatch
  rw [runBlock_ofReversed_cons]
  have hbehind : Matches (do n.runBlock (.ofReversed a); Render.atLine line)
      (do n.runBlock (.ofReversed b); pure ()) := .bind h fun _ => matches_atLine line
  rwa [bind_pure] at hbehind

/-- **A program builds a tree that does the same without the instructions that tell lines,** from
states that do the same.

**Proof sketch.** Induction on the program.  A line is one node more on the one side, which does
nothing; any other instruction is common to both programs. -/
theorem builtMatch_withoutLines (hn : n.diagnostics = false) {classify : String → Fragment}
    (p : Program) {a b : List Node} {l l' : List Level} (hnodes : n.NodesMatch a b)
    (hlevels : n.LevelsMatch l l') :
    n.BuiltMatch (buildBlock classify a l p) (buildBlock classify b l' p.withoutLines) := by
  induction p generalizing a b l l' with
  | nil => exact builtMatch_of_levels hn [] hnodes hlevels
  | cons i p ih =>
    cases hline : i.isLine with
    | false =>
      rw [Program.withoutLines_cons hline]
      exact builtMatch_append hn ih [i] hnodes hlevels
    | true =>
      rw [Program.withoutLines_cons_of_isLine hline]
      obtain ⟨line, rfl⟩ : ∃ line, i = .line line := by
        unfold Instruction.isLine at hline
        split at hline
        · exact ⟨_, rfl⟩
        · cases hline
      rw [buildBlock]
      exact ih (hnodes.line_cons line) hlevels

end Renderer

/-! ## Artifacts -/

namespace Artifact

/-- What a run gives in the end names no place but that of its failure. -/
lemma rendered_unplaced (x : Except (Halt Failure) Unit × Rendering) :
    rendered (x.1.mapError (renameHalt Failure.unplaced), x.2) =
      (rendered x).mapError (renameHalt Failure.unplaced) := by
  rcases x with ⟨h | _, r⟩
  · rfl
  · unfold rendered
    dsimp only [Except.mapError]
    split <;> rfl

/-- The same program renders to the same if failures are not located. -/
lemma render_unlocated (a : Artifact) (e : Evaluator) (fuel : Nat) (data : Value) :
    { a with options := a.options.untracked }.render e fuel data =
      (a.render e fuel data).mapError (renameHalt Failure.unplaced) := by
  let n : Renderer := a.renderer e fuel
  let start : Rendering := { scope := a.startScope data, origins := [a.origin] }
  simp only [render_eq]
  cases Block.ofProgram e.classify a.program with
  | error f => rfl
  | ok block =>
    obtain ⟨houtcome, hafter⟩ := n.simulation_unlocated.runBlock () block (block.every_true true)
      (rfl : start = start)
    show rendered (n.unlocated.runBlock block start) =
      (rendered (n.runBlock block start)).mapError (renameHalt Failure.unplaced)
    rw [← rendered_unplaced, houtcome, hafter]
    rfl

/-- **An artifact renders to the same without line tracking:** to the same output and the same
blocks, or to the same failure without its place, whatever fuel there is.

**Proof sketch.** Failures are not located first, and the program stays.  To the renderer that does
not locate them, the program builds a tree that does the same without the lines. -/
theorem render_untracked (a : Artifact) (e : Evaluator) (fuel : Nat) (data : Value) :
    a.untracked.render e fuel data =
      (a.render e fuel data).mapError (renameHalt Failure.unplaced) := by
  let unlocated : Artifact := { a with options := a.options.untracked }
  have hbuilt : (unlocated.renderer e fuel).BuiltMatch (Block.ofProgram e.classify a.program)
      (Block.ofProgram e.classify a.program.withoutLines) :=
    Renderer.builtMatch_withoutLines rfl a.program .nil .nil
  calc a.untracked.render e fuel data
      = unlocated.render e fuel data := (unlocated.render_congr hbuilt data).symm
    _ = (a.render e fuel data).mapError (renameHalt Failure.unplaced) :=
      a.render_unlocated e fuel data

end Artifact

/-- **Line tracking never changes what a template does.**  Let a text be compiled with lines tracked
and without, all other options being the same, and let both be rendered on the same data.  Either
both fail to compile, with the same error; or both give the same output and the same blocks; or both
fail with the same fault, of which the first may say where it arose; or both spend their fuel.

**Proof sketch.** Compiled without lines, a text gives the program without its markers
(`artifact_untracked`), and rendering that is rendering without telling where faults arise
(`render_untracked`). -/
theorem Workspace.renders_alike_untracked (w : Workspace) (options : Options) (text : String)
    (e : Evaluator) (fuel : Nat) (data : Value) :
    let tracked := w.artifact { options with diagnostics := true } text
    let untracked := w.artifact { options with diagnostics := false } text
    (∃ error, tracked = .error error ∧ untracked = .error error) ∨
      ∃ a b, tracked = .ok a ∧ untracked = .ok b ∧
        ((∃ out, a.render e fuel data = .ok out ∧ b.render e fuel data = .ok out) ∨
          (∃ f : Failure, a.render e fuel data = .error (.fault f) ∧
            b.render e fuel data = .error (.fault f.unplaced)) ∨
          (a.render e fuel data = .error .exhausted ∧
            b.render e fuel data = .error .exhausted)) := by
  intro tracked untracked
  have huntracked : untracked = tracked.map Artifact.untracked :=
    w.artifact_untracked { options with diagnostics := true } text
  cases htracked : tracked with
  | error error => exact .inl ⟨error, rfl, by rw [huntracked, htracked]; rfl⟩
  | ok a =>
    refine .inr ⟨a, a.untracked, rfl, by rw [huntracked, htracked]; rfl, ?_⟩
    rw [a.render_untracked]
    rcases a.render e fuel data with (f | _) | out
    · exact .inr (.inl ⟨f, rfl, rfl⟩)
    · exact .inr (.inr ⟨rfl, rfl⟩)
    · exact .inl ⟨out, rfl, rfl⟩

end Stencil
