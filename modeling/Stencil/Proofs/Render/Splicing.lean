import Stencil.Proofs.Block.Nesting
import Stencil.Proofs.Render.Congruence
import Stencil.Proofs.Script.Underlay

/-!
# Included templates written in place

An include without parameters opens a scope that begins empty and hides nothing.  Its template does
what it would do if it were written where the include stands, as long as it declares nothing that
the scope would keep to itself.

## Main definitions

* `Stencil.Render.Matches` — parts of rendering that do the same, except to the place.
* `Stencil.Renderer.LevelsMatch`, `BuiltMatch` — open constructs and trees that do the same.

## Main results

* `Stencil.Renderer.matches_scope` — a plain scope does what its body does.
* `Stencil.Renderer.builtMatch_append` — programs that differ in a part build alike, if what the
  part builds does the same.
* `Stencil.Artifact.render_spliced` — a template renders alike with a plain scope or without it.

## Design

The two programs are put into trees that differ in one node, but the builder works from left to
right, and that node may by then stand in a level or in a branch that is complete.  So the states
of the builder are compared by what they do when they are run, and the comparison goes through any
instructions that both programs have in common, before the scope and behind it.
-/

set_option relaxedAutoImplicit false
set_option autoImplicit false

namespace Stencil

open Script
open Process (Simulates Keeps)

/-! ## The same, except to the place -/

/-- **Parts of rendering that do the same,** except to the place. -/
abbrev Render.Matches {α : Type} (x y : Render α) : Prop :=
  Simulates id (Rendering.Like False Eq) x y

/-- Equal scopes are not told apart. -/
lemma Script.Scope.eq_frameCongruence :
    Scope.FrameCongruence (fun _ i => i) fun _ : Unit => Eq where
  congruence _ :=
    { get?_eq := by rintro s _ rfl name; rfl
      assign := by rintro s _ rfl name value; rfl }
  declare := by rintro _ s _ rfl name value; rfl
  declareVar := by rintro _ s _ rfl name value; rfl
  push := by rintro _ s _ rfl f; rfl
  truncate := by rintro _ s _ s' _ f rfl rfl; rfl

/-- Equal scopes are not told apart by code in any language. -/
lemma Evaluator.keeps_eq (e : Evaluator) : e.Keeps fun _ : Unit => Eq where
  evaluate _ _ := Keeps.of_forall (by rintro s _ rfl; exact ⟨rfl, rfl⟩)
  execute _ _ _ := Keeps.of_forall (by rintro s _ rfl; exact ⟨rfl, rfl⟩)

namespace Renderer

open Render (Matches)

variable {n : Renderer}

/-- The nodes of a block that were read last to first run before those behind them. -/
lemma runBlock_ofReversed (nodes : List Node) (tail : Block) :
    n.runBlock (.ofReversed nodes tail) = (do
      n.runBlock (.ofReversed nodes)
      n.runBlock tail) := by
  induction nodes generalizing tail with
  | nil => rfl
  | cons node nodes ih =>
    have hlast : n.runBlock (.cons node .nil) = n.runNode node := bind_pure (n.runNode node)
    show n.runBlock (.ofReversed nodes (.cons node tail)) = (do
      n.runBlock (.ofReversed nodes (.cons node .nil))
      n.runBlock tail)
    rw [ih (.cons node tail), ih (.cons node .nil), hlast, bind_assoc]
    rfl

/-- A node behind others. -/
lemma runBlock_ofReversed_cons (node : Node) (nodes : List Node) :
    n.runBlock (.ofReversed (node :: nodes)) = (do
      n.runBlock (.ofReversed nodes)
      n.runNode node) := by
  have hlast : n.runBlock (.cons node .nil) = n.runNode node := bind_pure (n.runNode node)
  rw [← hlast]
  exact runBlock_ofReversed nodes (.cons node .nil)

/-- The nodes of a block behind others. -/
lemma runBlock_ofReversed_append (block : Block) (nodes : List Node) :
    n.runBlock (.ofReversed (block.toList.reverse ++ nodes)) = (do
      n.runBlock (.ofReversed nodes)
      n.runBlock block) := by
  have hsplit : Block.ofReversed (block.toList.reverse ++ nodes) = .ofReversed nodes block := by
    rw [Block.ofReversed, List.foldl_append]
    exact congrArg (Block.ofReversed nodes ·) (Block.ofReversed_toList block)
  rw [hsplit, runBlock_ofReversed]

section Plain

variable (hn : n.diagnostics = false)

include hn

/-- A place that is not told may be another. -/
lemma not_located (h : n.diagnostics = true) : False := by
  rw [hn] at h
  cases h

/-- A node does what it does. -/
lemma matches_runNode (node : Node) : Matches (n.runNode node) (n.runNode node) :=
  keepsWithin_runNode Scope.eq_frameCongruence.guarded (not_located hn)
    n.evaluator.keeps_eq.within () node (node.every_true true)

/-! ## Plain scopes -/

/-- **A plain scope does what its body does,** if this declares no `var` and nothing at its own
level.

**Proof sketch.** While the body runs, the scope has one frame more beneath the frames of the body.
Names and assignments pass this frame by, as it is empty; declarations would go into it, but the
body makes them above it.  So it is still empty at the end, when it is cut off. -/
theorem matches_scope {functions : Functions} (hscript : n.evaluator = .script functions)
    (origin : Option Origin) {body : Block}
    (hbody : body.every (Stmt.textDeclaresOnly staysInside) false = true) :
    Matches (n.runNode (.scope ⟨[], false, origin⟩ body)) (n.runBlock body) := by
  rintro r q ⟨scope, line, origins, rfl, -, rfl⟩
  let entry : ScopeEntry := ⟨[], false, origin⟩
  let q : Rendering := { r with line, origins }
  let R (k : Nat) (s t : Scope) : Prop :=
    Scope.OverEnds (Padded r.scope.depth) s t ∧ s.depth = r.scope.depth + 1 + k
  have hR : Scope.GuardedCongruence (fun _ k => k + 1) staysInside (fun k => decide (0 < k)) R :=
    (Padded.nameUnderlay r.scope.depth).guardedCongruence
  have hkeeps : Keeps (Rendering.Like False (R 0)) (n.runBlock body) := by
    refine keepsWithin_runBlock hR (not_located hn) ?_ 0 body hbody
    rw [hscript]
    exact Evaluator.script_keepsWithin hR functions
  have henter : Rendering.Like False (R 0) (Render.enterScope entry [] r) q := by
    have hpadded : R 0 (r.scope.push { isFunction := true }) r.scope :=
      ⟨⟨rfl, .ends ⟨rfl, rfl⟩⟩, rfl⟩
    cases origin <;> exact ⟨r.scope, line, origins, hpadded, False.elim, rfl⟩
  have hrun : n.runNode (.scope entry body) r =
      Render.inScope entry [] (n.runBlock body) r := rfl
  rw [hrun, Render.inScope_eq]
  obtain ⟨houtcome, scope', line', origins', ⟨hends, hdepth⟩, -, hq⟩ := hkeeps henter
  refine ⟨houtcome, ?_⟩
  have hcut := hends.truncate_padded hdepth
  show Rendering.Like False Eq (Render.leaveScope entry r _) (n.runBlock body q).2
  rw [hq]
  cases origin <;> exact ⟨scope', line', origins', hcut, False.elim, rfl⟩

end Plain

/-! ## Trees that do the same -/

/-- Nodes that do the same, read last to first. -/
def NodesMatch (n : Renderer) (a b : List Node) : Prop :=
  Matches (n.runBlock (.ofReversed a)) (n.runBlock (.ofReversed b))

/-- Alternatives that do the same, branch by branch under the same conditions. -/
inductive BranchesMatch (n : Renderer) : Branches → Branches → Prop
  /-- No alternative. -/
  | none : n.BranchesMatch .none .none
  /-- The last alternative. -/
  | otherwise {a b : Block} :
      Matches (n.runBlock a) (n.runBlock b) → n.BranchesMatch (.otherwise a) (.otherwise b)
  /-- An alternative under a condition. -/
  | elseIf {a b : Block} {rest rest' : Branches} (condition : String) :
      Matches (n.runBlock a) (n.runBlock b) → n.BranchesMatch rest rest' →
      n.BranchesMatch (.elseIf condition a rest) (.elseIf condition b rest')

/-- Complete branches that do the same, under the same conditions. -/
def DoneMatch (n : Renderer) : DoneBranches → DoneBranches → Prop :=
  List.Forall₂ fun p q => p.1 = q.1 ∧ Matches (n.runBlock p.2) (n.runBlock q.2)

/-- **Open constructs that do the same,** each with nodes before it that do the same. -/
inductive LevelsMatch (n : Renderer) : List Level → List Level → Prop
  /-- Nothing is open. -/
  | nil : n.LevelsMatch [] []
  /-- A scope. -/
  | scope {a b : List Node} {l l' : List Level} (entry : ScopeEntry) :
      n.NodesMatch a b → n.LevelsMatch l l' →
      n.LevelsMatch (⟨.scope entry, a⟩ :: l) (⟨.scope entry, b⟩ :: l')
  /-- A loop. -/
  | loop {a b : List Node} {l l' : List Level} (header : LoopHeader) :
      n.NodesMatch a b → n.LevelsMatch l l' →
      n.LevelsMatch (⟨.loop header, a⟩ :: l) (⟨.loop header, b⟩ :: l')
  /-- A condition. -/
  | branch {done done' : DoneBranches} {a b : List Node} {l l' : List Level}
      (condition : Option String) :
      n.DoneMatch done done' → n.NodesMatch a b → n.LevelsMatch l l' →
      n.LevelsMatch (⟨.branch done condition, a⟩ :: l) (⟨.branch done' condition, b⟩ :: l')

/-- **Trees that do the same,** or the same fault in place of them. -/
def BuiltMatch (n : Renderer) : Except BlockFault Block → Except BlockFault Block → Prop
  | .ok a, .ok b => Matches (n.runBlock a) (n.runBlock b)
  | .error f, .error g => f = g
  | _, _ => False

/-- No nodes do what no nodes do. -/
lemma NodesMatch.nil : n.NodesMatch [] [] := .pure ()

/-- A node more on both sides. -/
lemma NodesMatch.cons {a b : List Node} {x y : Node} (h : n.NodesMatch a b)
    (hxy : Matches (n.runNode x) (n.runNode y)) : n.NodesMatch (x :: a) (y :: b) := by
  unfold NodesMatch
  rw [runBlock_ofReversed_cons, runBlock_ofReversed_cons]
  exact .bind h fun _ => hxy

/-- The alternatives behind the first branch do the same if the complete ones and the rest do. -/
lemma BranchesMatch.alternatives {done done' : DoneBranches} {rest rest' : Branches}
    (hdone : n.DoneMatch done done') (h : n.BranchesMatch rest rest') :
    n.BranchesMatch (Opened.alternatives done rest) (Opened.alternatives done' rest') := by
  induction hdone generalizing rest rest' with
  | nil => exact h
  | @cons p q done done' hpq _ ih =>
    obtain ⟨condition, body⟩ := p
    obtain ⟨condition', body'⟩ := q
    obtain ⟨rfl, hbody⟩ : condition = condition' ∧ Matches (n.runBlock body) (n.runBlock body') :=
      hpq
    exact ih (.elseIf condition hbody h)

section Located

variable (hn : n.diagnostics = false)

include hn

/-- A condition with branches that do the same. -/
lemma matches_branch (condition : String) {a b : Block} {rest rest' : Branches}
    (hbody : Matches (n.runBlock a) (n.runBlock b))
    (hrest : Matches (n.runBranches rest) (n.runBranches rest')) :
    Matches (n.runNode (.branch condition a rest)) (n.runNode (.branch condition b rest')) :=
  simulates_branch (not_located hn) n.evaluator.keeps_eq.within () condition
    (Render.simulates_inFrame (i := ()) Scope.eq_frameCongruence.guarded hbody) hrest

/-- Alternatives that do the same branch by branch do the same. -/
lemma BranchesMatch.runBranches {rest rest' : Branches} (h : n.BranchesMatch rest rest') :
    Matches (n.runBranches rest) (n.runBranches rest') := by
  induction h with
  | none => exact .pure ()
  | otherwise hbody =>
    exact Render.simulates_inFrame (i := ()) Scope.eq_frameCongruence.guarded hbody
  | elseIf condition hbody _ ih => exact matches_branch hn condition hbody ih

/-- So does the node that they make up. -/
lemma BranchesMatch.runNode {rest rest' : Branches} (h : n.BranchesMatch rest rest') :
    Matches (n.runNode rest.toNode) (n.runNode rest'.toNode) := by
  cases h with
  | none => exact matches_branch hn "" (.pure ()) (.pure ())
  | otherwise hbody =>
    exact matches_branch hn "" (.pure ()) (BranchesMatch.otherwise hbody |>.runBranches hn)
  | elseIf condition hbody hrest => exact matches_branch hn condition hbody (hrest.runBranches hn)

/-- The node of a condition whose branches do the same. -/
lemma matches_branchNode {done done' : DoneBranches} (hdone : n.DoneMatch done done')
    (condition : Option String) {a b : Block} (hbody : Matches (n.runBlock a) (n.runBlock b)) :
    Matches (n.runNode (Opened.branchNode done condition a))
      (n.runNode (Opened.branchNode done' condition b)) := by
  cases condition with
  | some condition =>
    rw [branchNode_some, branchNode_some]
    exact ((BranchesMatch.elseIf condition hbody .none).alternatives hdone).runNode hn
  | none =>
    rw [branchNode_none, branchNode_none]
    exact ((BranchesMatch.otherwise hbody).alternatives hdone).runNode hn

/-- A scope whose bodies do the same. -/
lemma matches_scopeNode (entry : ScopeEntry) {a b : Block}
    (hbody : Matches (n.runBlock a) (n.runBlock b)) :
    Matches (n.runNode (.scope entry a)) (n.runNode (.scope entry b)) :=
  simulates_scope Scope.eq_frameCongruence.guarded (not_located hn) n.evaluator.keeps_eq.within ()
    entry fun _ _ => hbody

/-- A loop whose bodies do the same. -/
lemma matches_loopNode (header : LoopHeader) {a b : Block}
    (hbody : Matches (n.runBlock a) (n.runBlock b)) :
    Matches (n.runNode (.loop header a)) (n.runNode (.loop header b)) :=
  simulates_runLoop Scope.eq_frameCongruence.guarded (not_located hn) n.evaluator.keeps_eq.within ()
    header.every_true fun _ _ => hbody

/-! ## Building -/

/-- **Programs that begin alike build alike,** from states that do the same, if what they go on
with does.

**Proof sketch.** Induction on the common instructions.  Whatever an instruction does to the state,
it does on both sides: the same construct is open on both, so that a fault is the same fault, and
what is closed becomes a node on both. -/
theorem builtMatch_append {classify : String → Fragment} {rest rest' : Program}
    (hrest : ∀ {a b : List Node} {l l' : List Level}, n.NodesMatch a b → n.LevelsMatch l l' →
      n.BuiltMatch (buildBlock classify a l rest) (buildBlock classify b l' rest'))
    (p : Program) {a b : List Node} {l l' : List Level} (hnodes : n.NodesMatch a b)
    (hlevels : n.LevelsMatch l l') :
    n.BuiltMatch (buildBlock classify a l (p ++ rest)) (buildBlock classify b l' (p ++ rest')) := by
  induction p generalizing a b l l' with
  | nil => exact hrest hnodes hlevels
  | cons i p ih =>
    simp only [List.cons_append]
    cases i with
    | step s =>
      rw [buildBlock, buildBlock]
      exact ih (hnodes.cons (matches_runNode hn (.step s))) hlevels
    | enterScope entry =>
      rw [buildBlock, buildBlock]
      exact ih .nil (.scope entry hnodes hlevels)
    | exitScope =>
      cases hlevels with
      | scope entry hbefore hlevels =>
        exact ih (hbefore.cons (matches_scopeNode hn entry hnodes)) hlevels
      | _ => rfl
    | exec text =>
      cases hc : classify text with
      | simple =>
        rw [buildBlock_simple _ _ _ hc, buildBlock_simple _ _ _ hc]
        exact ih (hnodes.cons (matches_runNode hn (.exec text))) hlevels
      | openBranch condition =>
        rw [buildBlock_openBranch _ _ _ hc, buildBlock_openBranch _ _ _ hc]
        exact ih .nil (.branch (some condition) .nil hnodes hlevels)
      | openLoop header =>
        rw [buildBlock_openLoop _ _ _ hc, buildBlock_openLoop _ _ _ hc]
        exact ih .nil (.loop header hnodes hlevels)
      | alternative next =>
        cases hlevels with
        | branch condition hdone hbefore hlevels =>
          cases condition with
          | none => simp only [buildBlock, hc, BuiltMatch]
          | some condition =>
            simp only [buildBlock, hc]
            exact ih .nil (.branch next (.cons ⟨rfl, hnodes⟩ hdone) hbefore hlevels)
        | _ => simp only [buildBlock, hc, BuiltMatch]
      | close =>
        cases hlevels with
        | loop header hbefore hlevels =>
          simp only [buildBlock, hc]
          exact ih (hbefore.cons (matches_loopNode hn header hnodes)) hlevels
        | branch condition hdone hbefore hlevels =>
          simp only [buildBlock, hc]
          exact ih (hbefore.cons (matches_branchNode hn hdone condition hnodes)) hlevels
        | _ => simp only [buildBlock, hc, BuiltMatch]

/-- States that do the same build trees that do the same. -/
lemma builtMatch_of_levels {classify : String → Fragment} (p : Program) {a b : List Node}
    {l l' : List Level} (hnodes : n.NodesMatch a b) (hlevels : n.LevelsMatch l l') :
    n.BuiltMatch (buildBlock classify a l p) (buildBlock classify b l' p) := by
  have hend {a b : List Node} {l l' : List Level} (hnodes : n.NodesMatch a b)
      (hlevels : n.LevelsMatch l l') :
      n.BuiltMatch (buildBlock classify a l []) (buildBlock classify b l' []) := by
    cases hlevels with
    | nil => exact hnodes
    | _ => rfl
  have hbuilt := builtMatch_append hn hend p hnodes hlevels
  rwa [List.append_nil] at hbuilt

/-- With a plain scope or without it, a program builds trees that do the same, if the body of
the scope declares no `var` and nothing at its own level.

**Proof sketch.** Up to the scope both programs are the same.  The body of the scope builds its
nodes on any state, so where the scope ends it is one node on the one side and these nodes on the
other, which do the same.  Behind it both programs are the same again. -/
theorem builtMatch_spliced {functions : Functions} (hscript : n.evaluator = .script functions)
    {classify : String → Fragment} (pre post : Program) {body : Program} (origin : Option Origin)
    {block : Block} (hbody : Block.ofProgram classify body = .ok block)
    (hdeclares : block.every (Stmt.textDeclaresOnly staysInside) false = true) :
    let entry : ScopeEntry := ⟨[], false, origin⟩
    n.BuiltMatch
      (Block.ofProgram classify (pre ++ .enterScope entry :: body ++ .exitScope :: post))
      (Block.ofProgram classify (pre ++ body ++ post)) := by
  intro entry
  have hmarks := Block.ofProgram_eq_ok_iff.1 hbody
  have hscope := matches_scope hn hscript origin hdeclares
  simp only [List.append_assoc, List.cons_append]
  refine builtMatch_append hn (fun {a b l l'} hnodes hlevels => ?_) pre .nil .nil
  have hleft : buildBlock classify a l
      (.enterScope entry :: (body ++ .exitScope :: post)) =
        buildBlock classify (.scope entry block :: a) l post := by
    rw [buildBlock, buildBlock_block block hmarks, List.append_nil]
    simp only [buildBlock, Block.ofReversed_toList]
  rw [hleft, buildBlock_block block hmarks]
  refine builtMatch_of_levels hn post ?_ hlevels
  unfold NodesMatch
  rw [runBlock_ofReversed_cons, runBlock_ofReversed_append]
  exact .bind hnodes fun _ => hscope

end Located

end Renderer

/-! ## Artifacts -/

namespace Artifact

/-- The renderer of an artifact. -/
def renderer (a : Artifact) (e : Evaluator) (fuel : Nat) : Renderer :=
  ⟨e, a.options.escape, a.options.diagnostics, fuel⟩

/-- What a run gives in the end: its output and its blocks, unless one of these is open. -/
def rendered : Except (Halt Failure) Unit × Rendering → Except (Halt Failure) Rendered
  | (.error h, _) => .error h
  | (.ok (), r) =>
    if r.capture.isSome then .error (.fault ⟨.unbalanced .openCapture, none⟩)
    else .ok ⟨r.output, r.blocks⟩

/-- A template is rendered by a run of its tree. -/
lemma render_eq (a : Artifact) (e : Evaluator) (fuel : Nat) (data : Value) :
    a.render e fuel data = match Block.ofProgram e.classify a.program with
      | .error f => .error (.fault ⟨.unbalanced f, none⟩)
      | .ok block => rendered
          ((⟨e, a.options.escape, a.options.diagnostics, fuel⟩ : Renderer).runBlock block
            { scope := a.startScope data, origins := [a.origin] }) := by
  unfold render
  cases Block.ofProgram e.classify a.program with
  | error f => rfl
  | ok block =>
    dsimp only
    split <;> next h => rw [h]; rfl

/-- Runs that end alike, except for the place, give the same in the end. -/
lemma rendered_congr {x y : Except (Halt Failure) Unit × Rendering}
    (houtcome : x.1 = y.1) (hafter : Rendering.Like False Eq x.2 y.2) :
    rendered x = rendered y := by
  obtain ⟨o, r⟩ := x
  obtain ⟨o', q⟩ := y
  obtain ⟨scope, line, origins, -, -, rfl⟩ := hafter
  obtain rfl : o = o' := houtcome
  cases o <;> rfl

/-- Programs that build trees that do the same render alike, if the place is not told. -/
lemma render_congr (a : Artifact) {p q : Program} {e : Evaluator} {fuel : Nat}
    (hbuilt : (a.renderer e fuel).BuiltMatch (Block.ofProgram e.classify p)
      (Block.ofProgram e.classify q)) (data : Value) :
    { a with program := p }.render e fuel data = { a with program := q }.render e fuel data := by
  simp only [render_eq]
  rcases hp : Block.ofProgram e.classify p with f | b <;>
    rcases hq : Block.ofProgram e.classify q with g | c <;> rw [hp, hq] at hbuilt
  · obtain rfl : f = g := hbuilt
    rfl
  · cases hbuilt
  · cases hbuilt
  · let start : Rendering := { scope := a.startScope data, origins := [a.origin] }
    have hstart : Rendering.Like False Eq start start :=
      ⟨start.scope, start.line, start.origins, rfl, False.elim, rfl⟩
    have hruns : Render.Matches ((a.renderer e fuel).runBlock b) ((a.renderer e fuel).runBlock c) :=
      hbuilt
    obtain ⟨houtcome, hafter⟩ := hruns hstart
    rw [Process.mapError_id] at houtcome
    exact rendered_congr houtcome hafter

/-- **A template renders alike with a plain scope or without it:** with the same output and the same
blocks, or with the same failure, whatever fuel there is.  The program of the scope has to nest by
itself, which is to say that the scope is left where its program ends; and it has to declare no
`var`, and nothing else at its own level, to which the body of a `while` statement belongs unless it
is a block.

**Proof sketch.** Both programs build trees that do the same, or the same fault
(`Renderer.builtMatch_spliced`), and begin with the same rendering. -/
theorem render_spliced (functions : Functions) (a : Artifact) (pre post : Program) {body : Program}
    (origin : Option Origin) {block : Block} (hdiagnostics : a.options.diagnostics = false)
    (hbody : Block.ofProgram Fragment.classify body = .ok block)
    (hdeclares : block.every (Stmt.textDeclaresOnly staysInside) false = true) (fuel : Nat)
    (data : Value) :
    let entry : ScopeEntry := ⟨[], false, origin⟩
    let included : Program := pre ++ .enterScope entry :: body ++ .exitScope :: post
    let spliced : Program := pre ++ body ++ post
    { a with program := included }.render (.script functions) fuel data =
      { a with program := spliced }.render (.script functions) fuel data := by
  intro entry included spliced
  let n : Renderer := ⟨.script functions, a.options.escape, a.options.diagnostics, fuel⟩
  have hbuilt : n.BuiltMatch (Block.ofProgram Fragment.classify included)
      (Block.ofProgram Fragment.classify spliced) :=
    Renderer.builtMatch_spliced hdiagnostics rfl pre post origin hbody hdeclares
  have hclassify : (Evaluator.script functions).classify = Fragment.classify := rfl
  simp only [render_eq, hclassify]
  rcases hincluded : Block.ofProgram Fragment.classify included with f | b <;>
    rcases hspliced : Block.ofProgram Fragment.classify spliced with g | c <;>
    rw [hincluded, hspliced] at hbuilt
  · obtain rfl : f = g := hbuilt
    rfl
  · cases hbuilt
  · cases hbuilt
  · let start : Rendering := { scope := a.startScope data, origins := [a.origin] }
    have hstart : Rendering.Like False Eq start start :=
      ⟨start.scope, start.line, start.origins, rfl, False.elim, rfl⟩
    have hruns : Render.Matches (n.runBlock b) (n.runBlock c) := hbuilt
    obtain ⟨houtcome, hafter⟩ := hruns hstart
    rw [Process.mapError_id] at houtcome
    exact rendered_congr houtcome hafter

/-- A program that declares a name in each turn of a loop, with a scope of its own and without. -/
theorem render_spliced_declaring :
    let a : Artifact := ⟨[], { diagnostics := false }, ⟨"ejs", ""⟩, [], {}⟩
    let entry : ScopeEntry := ⟨[], false, some ⟨"row.ejs", ""⟩⟩
    let body : Program := [.exec "for(k of d)\x7b", .exec "let y=k", .appendRaw "y", .exec "\x7d"]
    let included : Program := [.line 2] ++ .enterScope entry :: body ++ .exitScope :: [.append "z"]
    let spliced : Program := [.line 2] ++ body ++ [.append "z"]
    let data : Value := .object [("d", .list [.null, .bool true])]
    { a with program := included }.render (.script []) 4 data =
      { a with program := spliced }.render (.script []) 4 data := by
  intro a entry body included spliced data
  have htokens : Token.ofChars "let y=k".toList =
      .ok [.word "let", .word "y", .symbol .assign, .word "k"] :=
    open Token in
    ofChars_cons_ok (some (.word "let")) (by rfl) <|
    ofChars_cons_ok none (by rfl) <|
    ofChars_cons_ok (some (.word "y")) (by rfl) <|
    ofChars_cons_ok (some (.symbol .assign)) (by rfl) <|
    ofChars_cons_ok (some (.word "k")) (by rfl) ofChars_nil
  have hread : Stmt.listOfText "let y=k" = .ok [.declare .let [("y", some (.name "k"))]] := by
    rw [Stmt.listOfText, htokens]
    rfl
  have hdeclares : Stmt.textDeclaresOnly staysInside true "let y=k" = true := by
    rw [Stmt.textDeclaresOnly, hread]
    rfl
  have hblock : Block.ofProgram Fragment.classify body = .ok (.cons (.loop (.forOf "k" "d")
      (.cons (.exec "let y=k") (.cons (.step (.appendRaw "y")) .nil))) .nil) :=
    Block.ofProgram_eq_ok_iff.2 rfl
  refine render_spliced [] a [.line 2] [.append "z"] entry.origin rfl hblock ?_ 4 data
  simp only [Block.every, Node.every, LoopHeader.every, hdeclares, Bool.and_self]

/-- Two programs that do not render alike with a plain scope and without it.  The first declares a
name as the body of a `while` statement, which has no frame of its own.  The second leaves the scope
and enters another, so that it does not nest without the scope. -/
theorem render_scope_seen :
    let a : Artifact := ⟨[], { diagnostics := false }, ⟨"ejs", ""⟩, [], {}⟩
    let entry : ScopeEntry := ⟨[], false, none⟩
    let data : Value := .object [("d", .bool false)]
    let render := fun program : Program => { a with program }.render (.script []) 2 data
    let negation : Expr := .unary .not (.name "d")
    Stmt.listOfText "while(!d)let d=!d" =
        .ok [.whileLoop negation (.declare .let [("d", some negation)])] ∧
      render [.enterScope entry, .exec "while(!d)let d=!d", .exitScope, .appendRaw "d"] =
        .ok ⟨"false", []⟩ ∧
      render [.exec "while(!d)let d=!d", .appendRaw "d"] = .ok ⟨"true", []⟩ ∧
      render [.enterScope entry, .exitScope, .enterScope entry, .exitScope] = .ok ⟨"", []⟩ ∧
      render [.exitScope, .enterScope entry] = .error (.fault ⟨.unbalanced .strayExit, none⟩) := by
  have hname : Token.ofChars "d".toList = .ok [.word "d"] :=
    Token.ofChars_cons_ok (some (.word "d")) (by rfl) Token.ofChars_nil
  have htokens : Token.ofChars "while(!d)let d=!d".toList =
      .ok [.word "while", .symbol .openParen, .symbol .bang, .word "d", .symbol .closeParen,
        .word "let", .word "d", .symbol .assign, .symbol .bang, .word "d"] :=
    open Token in
    ofChars_cons_ok (some (.word "while")) (by rfl) <|
    ofChars_cons_ok (some (.symbol .openParen)) (by rfl) <|
    ofChars_cons_ok (some (.symbol .bang)) (by rfl) <|
    ofChars_cons_ok (some (.word "d")) (by rfl) <|
    ofChars_cons_ok (some (.symbol .closeParen)) (by rfl) <|
    ofChars_cons_ok (some (.word "let")) (by rfl) <|
    ofChars_cons_ok none (by rfl) <|
    ofChars_cons_ok (some (.word "d")) (by rfl) <|
    ofChars_cons_ok (some (.symbol .assign)) (by rfl) <|
    ofChars_cons_ok (some (.symbol .bang)) (by rfl) hname
  intro a entry data render negation
  have hread : Expr.ofText "d" = .ok (.name "d") := by
    rw [Expr.ofText, hname]
    rfl
  have hfragment : Stmt.listOfText "while(!d)let d=!d" =
      .ok [.whileLoop negation (.declare .let [("d", some negation)])] := by
    rw [Stmt.listOfText, htokens]
    rfl
  have hvalue := Evaluator.script_evaluate [] hread
  have hcode := Evaluator.script_execute [] 2 hfragment
  have hrun (program : Program) (block : Block) (h : Block.ofProgram Fragment.classify program =
      .ok block) : render program = rendered ((⟨.script [], a.options.escape, false, 2⟩ :
        Renderer).runBlock block { scope := a.startScope data, origins := [a.origin] }) := by
    show { a with program }.render (.script []) 2 data = _
    rw [render_eq]
    show (match Block.ofProgram Fragment.classify program with
      | .error f => _
      | .ok block => _) = _
    rw [h]
    rfl
  refine ⟨hfragment, ?_, ?_, ?_, ?_⟩
  · rw [hrun _ (.cons (.scope entry (.cons (.exec "while(!d)let d=!d") .nil))
      (.cons (.step (.appendRaw "d")) .nil)) (Block.ofProgram_eq_ok_iff.2 rfl)]
    simp only [Renderer.runBlock, Renderer.runNode, Renderer.execute, hcode, Renderer.runStep,
      Renderer.evaluate, hvalue]
    rfl
  · rw [hrun _ (.cons (.exec "while(!d)let d=!d") (.cons (.step (.appendRaw "d")) .nil))
      (Block.ofProgram_eq_ok_iff.2 rfl)]
    simp only [Renderer.runBlock, Renderer.runNode, Renderer.execute, hcode, Renderer.runStep,
      Renderer.evaluate, hvalue]
    rfl
  · rw [hrun _ (.cons (.scope entry .nil) (.cons (.scope entry .nil) .nil))
      (Block.ofProgram_eq_ok_iff.2 rfl)]
    rfl
  · show { a with program := [.exitScope, .enterScope entry] }.render (.script []) 2 data = _
    rw [render_eq]
    simp [Block.ofProgram, buildBlock]

end Artifact

end Stencil
