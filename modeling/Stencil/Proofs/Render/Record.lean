import Stencil.Proofs.Block.Nesting
import Stencil.Proofs.Render.Isolation
import Stencil.Proofs.Render.Splicing

/-!
# The record of a rendering

Which steps a rendering runs, and in what order, depends on its conditions, loops and includes.  A
recorder renders as before and notes each step together with the rendering that it begins with.
Output, captures and blocks change at these steps alone, so that what they come to may be read off
the record.

## Main definitions

* `Stencil.Visit`, `Stencil.Recording` — a step that is run, and a rendering with the steps before.
* `Stencil.Renderer.recordBlock` — the run of a block that is recorded.
* `Stencil.Renderer.Followed` — a record that leads to a rendering.
* `Stencil.Renderer.Records` — a recorder that renders as a part of rendering does.
* `Stencil.Renderer.Effect` — what a step comes to that ends well.
* `Stencil.Artifact.recorded` — the recorded run of a template.

## Main results

* `Stencil.Renderer.records_recordNode`, `records_recordBlock`, `records_recordBranches` — what is
  recorded is what is rendered, and its record leads to where it comes to.
* `Stencil.Artifact.recorded_spec` — the same of an artifact, whose steps are instructions of its
  program.
* `Stencil.Renderer.effect_of_runStep` — a step that ends well has its effect.

## Design

The recorder goes along the tree as the renderer does.  `Records` compares the two and follows the
record at once, so that the tree is gone through a single time; what is proved of all records needs
an induction over `Followed` alone.
-/

set_option relaxedAutoImplicit false
set_option autoImplicit false

namespace Stencil

open Script

/-! ## Recordings -/

/-- **A step that is run,** and the rendering that it begins with. -/
structure Visit where
  /-- The step. -/
  step : Step
  /-- The rendering before it. -/
  before : Rendering

/-- **A rendering with the steps that have been run,** the last one last. -/
structure Recording where
  /-- The rendering. -/
  now : Rendering
  /-- The steps. -/
  visits : List Visit := []

/-- A process of rendering that is recorded. -/
abbrev Recorder (α : Type) := Process Failure Recording α

namespace Recorder

/-- A part of rendering without steps. -/
def lift {α : Type} (x : Render α) : Recorder α := fun q =>
  ((x q.now).1, { q with now := (x q.now).2 })

/-- A body between an entry and an exit, which knows the rendering before the entry. -/
def between (enter : Rendering → Rendering) (leave : Rendering → Rendering → Rendering)
    (body : Recorder Unit) : Recorder Unit := fun q =>
  let (result, t) := body { q with now := enter q.now }
  (result, { t with now := leave q.now t.now })

/-- A body in a frame of its own. -/
def inFrame (f : Frame) (body : Recorder Unit) : Recorder Unit :=
  between (Render.enterFrame f) Render.leaveFrame body

/-- A body in the scope of an include. -/
def inScope (entry : ScopeEntry) (vars : Fields Value) (body : Recorder Unit) : Recorder Unit :=
  between (Render.enterScope entry vars) (Render.leaveScope entry) body

end Recorder

namespace Renderer

/-- A step that is noted and run. -/
def recordStep (n : Renderer) (s : Step) : Recorder Unit := do
  modify fun q => { q with visits := q.visits ++ [⟨s, q.now⟩] }
  Recorder.lift (n.runStep s)

/-- A loop that is recorded, given the recorder of its body. -/
def recordLoop (n : Renderer) (header : LoopHeader) (body : Recorder Unit) : Recorder Unit := do
  let line := (← get).now.line
  let turn := fun (f : Frame) => do
    Recorder.lift (Render.atLine line)
    Recorder.inFrame f body
  match header with
  | .whileLoop condition =>
    Process.loop (Recorder.lift do Render.atLine line; n.test condition)
      (Recorder.inFrame {} body) n.fuel
  | .forOf binding iterable =>
    let v ← Recorder.lift (n.evaluate iterable)
    match elementsOf v with
    | .ok items => Process.forEach (fun v => turn { vars := [(binding, v)] }) items
    | .error f => Recorder.lift (n.fail f)
  | .forIn binding object =>
    let v ← Recorder.lift (n.evaluate object)
    Process.forEach (fun key => turn { vars := [(binding, key)] }) v.keys
  | .counted start condition update =>
    Recorder.inFrame {} do
      Recorder.lift (n.startWith start)
      Process.loop (Recorder.lift do Render.atLine line; n.testOptional condition)
        (do Recorder.inFrame {} body; Recorder.lift (n.updateAt line update)) n.fuel
  | .forEach iterable item index =>
    match ← Recorder.lift (n.evaluate iterable) with
    | .list items =>
      Process.forEach (fun (v, position) =>
        let vars := [(item, v)]
        let vars := match index with
          | some index => Fields.insert index (Value.ofNat position) vars
          | none => vars
        turn { vars, isFunction := true }) items.zipIdx
    | .null => Recorder.lift (n.fail (.type (.readOfNothing "forEach")))
    | _ => Recorder.lift (n.fail (.type (.notFunction (iterable ++ ".forEach"))))

mutual

/-- The run of a node that is recorded. -/
def recordNode (n : Renderer) : Node → Recorder Unit
  | .step s => n.recordStep s
  | .exec fragment => Recorder.lift (n.execute fragment)
  | .scope entry body => do
    let vars ← Recorder.lift (n.paramVars [] entry.params)
    Recorder.inScope entry (withLocals entry.isolated vars) (n.recordBlock body)
  | .branch condition body rest => do
    if ← Recorder.lift (n.test condition) then Recorder.inFrame {} (n.recordBlock body)
    else n.recordBranches rest
  | .loop header body => n.recordLoop header (n.recordBlock body)

/-- **The run of a block that is recorded.** -/
def recordBlock (n : Renderer) : Block → Recorder Unit
  | .nil => return ()
  | .cons head tail => do
    n.recordNode head
    n.recordBlock tail

/-- The run of alternatives that is recorded. -/
def recordBranches (n : Renderer) : Branches → Recorder Unit
  | .none => return ()
  | .otherwise body => Recorder.inFrame {} (n.recordBlock body)
  | .elseIf condition body rest => do
    if ← Recorder.lift (n.test condition) then Recorder.inFrame {} (n.recordBlock body)
    else n.recordBranches rest

end

end Renderer

/-! ## Parts of rendering without steps -/

/-- Renderings that differ in their bindings and their place alone. -/
def Rendering.SameOutput (r q : Rendering) : Prop :=
  ∃ scope line origins, q = { r with scope, line, origins }

/-- A part of rendering that changes the bindings and the place alone. -/
def Render.Silent {α : Type} (x : Render α) : Prop :=
  ∀ r : Rendering, r.SameOutput (x r).2

namespace Rendering.SameOutput

variable {r q t : Rendering}

/-- A rendering has the output that it has. -/
lemma refl (r : Rendering) : r.SameOutput r := ⟨r.scope, r.line, r.origins, rfl⟩

/-- Renderings with the output of a third one have the same output. -/
lemma trans (h : r.SameOutput q) (h' : q.SameOutput t) : r.SameOutput t := by
  obtain ⟨_, _, _, rfl⟩ := h
  obtain ⟨scope, line, origins, rfl⟩ := h'
  exact ⟨scope, line, origins, rfl⟩

end Rendering.SameOutput

namespace Render

/-- Entering a frame writes nothing. -/
lemma sameOutput_enterFrame (f : Frame) (r : Rendering) : r.SameOutput (enterFrame f r) :=
  ⟨_, _, _, rfl⟩

/-- Leaving a frame writes nothing. -/
lemma sameOutput_leaveFrame (r t : Rendering) : t.SameOutput (leaveFrame r t) := ⟨_, _, _, rfl⟩

/-- Entering the scope of an include writes nothing. -/
lemma sameOutput_enterScope (entry : ScopeEntry) (vars : Fields Value) (r : Rendering) :
    r.SameOutput (enterScope entry vars r) := by
  unfold enterScope
  cases entry.origin <;> exact ⟨_, _, _, rfl⟩

/-- Leaving the scope of an include writes nothing. -/
lemma sameOutput_leaveScope (entry : ScopeEntry) (r t : Rendering) :
    t.SameOutput (leaveScope entry r t) := by
  unfold leaveScope
  cases entry.origin <;> exact ⟨_, _, _, rfl⟩

namespace Silent

variable {α β : Type} {n : Renderer}

/-- A value. -/
lemma pure (a : α) : Silent (pure a : Render α) := fun r => .refl r

/-- A line come to. -/
lemma atLine (line : Nat) : Silent (Render.atLine line) := fun _ => ⟨_, _, _, rfl⟩

/-- A fault. -/
lemma fail (f : Fault) : Silent (n.fail f : Render α) := fun r => .refl r

/-- Code run on the bindings. -/
lemma onScope (x : Run α) : Silent (n.onScope x) :=
  fun r => ⟨_, _, _, Renderer.onScope_snd n x r⟩

/-- The parameters of a scope. -/
lemma paramVars (vars : Fields Value) (params : List String) :
    Silent (n.paramVars vars params) := by
  intro r
  obtain ⟨scope, h⟩ := Renderer.paramVars_snd n vars params r
  exact ⟨scope, _, _, h⟩

/-- Steps one after the other. -/
lemma bind {x : Render α} {g : α → Render β} (hx : Silent x) (hg : ∀ a, Silent (g a)) :
    Silent (x >>= g) := by
  intro r
  have hfirst := hx r
  rw [Process.bind_apply]
  rcases hxr : x r with ⟨_ | a, t⟩ <;> rw [hxr] at hfirst
  · exact hfirst
  · exact hfirst.trans (hg a t)

/-- A condition. -/
lemma test (condition : String) : Silent (n.test condition) :=
  .bind (.onScope _) fun _ => .pure _

/-- The start of a counted loop. -/
lemma startWith (start : Option String) : Silent (n.startWith start) := by
  cases start with
  | none => exact .pure ()
  | some code => exact .onScope _

/-- The condition of a counted loop. -/
lemma testOptional (condition : Option String) : Silent (n.testOptional condition) := by
  cases condition with
  | none => exact .pure true
  | some code => exact .test code

/-- The update of a counted loop. -/
lemma updateAt (line : Nat) (update : Option String) : Silent (n.updateAt line update) := by
  cases update with
  | none => exact .pure ()
  | some code => exact .bind (.atLine line) fun _ => .onScope _

end Silent

end Render

/-! ## Records that lead somewhere -/

namespace Renderer

/-- **A record that leads to a rendering:** nothing has been put out before the first step, each
step has been run and has ended well, and nothing but bindings and places has changed between them.
`P` tells which steps there may be. -/
inductive Followed (n : Renderer) (P : Step → Prop) : List Visit → Rendering → Prop
  /-- A beginning. -/
  | start {r : Rendering} (output : r.output = "") (capture : r.capture = none)
      (blocks : r.blocks = []) : Followed n P [] r
  /-- A step. -/
  | visit {visits : List Visit} {v : Visit} {r : Rendering} (earlier : Followed n P visits v.before)
      (step : P v.step) (run : n.runStep v.step v.before = (.ok (), r)) :
      Followed n P (visits ++ [v]) r
  /-- A part of rendering without steps. -/
  | aside {visits : List Visit} {r q : Rendering} (earlier : Followed n P visits r)
      (same : r.SameOutput q) : Followed n P visits q

/-- A record that leads to a failure: something between two steps has failed, or the last step
has. -/
def FailedAfter (n : Renderer) (P : Step → Prop) (h : Halt Failure) (visits : List Visit) : Prop :=
  (∃ r, n.Followed P visits r) ∨
    ∃ front v, visits = front ++ [v] ∧ n.Followed P front v.before ∧ P v.step ∧
      (n.runStep v.step v.before).1 = .error h

/-- Where the record of a run leads: to the rendering with which it ends, or to its failure. -/
def Leads {α : Type} (n : Renderer) (P : Step → Prop) :
    Except (Halt Failure) α × Recording → Prop
  | (.ok _, q) => n.Followed P q.visits q.now
  | (.error h, q) => n.FailedAfter P h q.visits

/-- **A recorder that renders as a part of rendering does:** from a record that leads to a
rendering, it ends as this part does from the rendering, and its record leads there. -/
def Records {α : Type} (n : Renderer) (P : Step → Prop) (x : Render α) (y : Recorder α) : Prop :=
  ∀ ⦃q⦄, n.Followed P q.visits q.now →
    (y q).map id Recording.now = x q.now ∧ n.Leads P (y q)

namespace Records

variable {α β : Type} {n : Renderer} {P : Step → Prop}

/-- A value. -/
lemma pure (a : α) : Records n P (pure a : Render α) (pure a : Recorder α) :=
  fun _ hq => ⟨rfl, hq⟩

/-- A part of rendering without steps. -/
lemma lift {x : Render α} (hx : x.Silent) : Records n P x (Recorder.lift x) := by
  intro q hq
  have hafter : n.Followed P q.visits (x q.now).2 := .aside hq (hx q.now)
  refine ⟨rfl, ?_⟩
  unfold Recorder.lift
  cases (x q.now).1 with
  | ok a => exact hafter
  | error h => exact .inl ⟨_, hafter⟩

/-- A step. -/
lemma step {s : Step} (hs : P s) : Records n P (n.runStep s) (n.recordStep s) := by
  intro q hq
  let v : Visit := ⟨s, q.now⟩
  have hrecord : n.recordStep s q =
      ((n.runStep s q.now).1, ⟨(n.runStep s q.now).2, q.visits ++ [v]⟩) := rfl
  rw [hrecord]
  refine ⟨rfl, ?_⟩
  rcases hrun : n.runStep s q.now with ⟨h | u, r⟩
  · exact .inr ⟨q.visits, v, rfl, hq, hs, congrArg Prod.fst hrun⟩
  · exact Followed.visit (v := v) hq hs hrun

/-- A look at the rendering. -/
lemma get {g : Rendering → Render α} {h : Recording → Recorder α}
    (hgh : ∀ q, Records n P (g q.now) (h q)) : Records n P (get >>= g) (get >>= h) :=
  fun q hq => hgh q hq

/-- Steps one after the other. -/
lemma bind {x : Render α} {y : Recorder α} {g : α → Render β} {h : α → Recorder β}
    (hxy : Records n P x y) (hgh : ∀ a, Records n P (g a) (h a)) :
    Records n P (x >>= g) (y >>= h) := by
  intro q hq
  obtain ⟨hsame, hleads⟩ := hxy hq
  rw [Process.bind_apply, Process.bind_apply, ← hsame]
  rcases hy : y q with ⟨e | a, t⟩ <;> rw [hy] at hleads
  · exact ⟨rfl, hleads⟩
  · exact hgh a hleads

/-- A body between an entry and an exit. -/
lemma between {enter : Rendering → Rendering} {leave : Rendering → Rendering → Rendering}
    (henter : ∀ r : Rendering, r.SameOutput (enter r))
    (hleave : ∀ r t : Rendering, t.SameOutput (leave r t))
    {x : Render Unit} {y : Recorder Unit} (hxy : Records n P x y) :
    Records n P (fun r => ((x (enter r)).1, leave r (x (enter r)).2))
      (Recorder.between enter leave y) := by
  intro q hq
  have henters : n.Followed P q.visits (enter q.now) := .aside hq (henter q.now)
  obtain ⟨hsame, hleads⟩ := hxy (q := { q with now := enter q.now }) henters
  dsimp only at hsame ⊢
  rw [← hsame, Recorder.between]
  rcases hy : y { q with now := enter q.now } with ⟨e | a, t⟩ <;> rw [hy] at hleads
  · exact ⟨rfl, hleads⟩
  · exact ⟨rfl, .aside hleads (hleave q.now t.now)⟩

/-- A body in a frame of its own. -/
lemma inFrame (f : Frame) {x : Render Unit} {y : Recorder Unit} (hxy : Records n P x y) :
    Records n P (Render.inFrame f x) (Recorder.inFrame f y) :=
  between (Render.sameOutput_enterFrame f) Render.sameOutput_leaveFrame hxy

/-- A body in the scope of an include. -/
lemma inScope (entry : ScopeEntry) (vars : Fields Value) {x : Render Unit} {y : Recorder Unit}
    (hxy : Records n P x y) :
    Records n P (Render.inScope entry vars x) (Recorder.inScope entry vars y) := by
  rw [Render.inScope_eq]
  exact between (Render.sameOutput_enterScope entry vars) (Render.sameOutput_leaveScope entry) hxy

/-- A loop while a condition holds. -/
lemma loop {condition : Render Bool} {condition' : Recorder Bool} {body : Render Unit}
    {body' : Recorder Unit} (hcondition : Records n P condition condition')
    (hbody : Records n P body body') (fuel : Nat) :
    Records n P (Process.loop condition body fuel) (Process.loop condition' body' fuel) := by
  induction fuel with
  | zero => exact fun q hq => ⟨rfl, .inl ⟨_, hq⟩⟩
  | succ fuel ih =>
    refine bind hcondition fun holds => ?_
    cases holds with
    | false => exact pure ()
    | true => exact bind hbody fun _ => ih

/-- A loop over a list. -/
lemma forEach {body : α → Render Unit} {body' : α → Recorder Unit}
    (hbody : ∀ a, Records n P (body a) (body' a)) (items : List α) :
    Records n P (Process.forEach body items) (Process.forEach body' items) := by
  induction items with
  | nil => exact pure ()
  | cons a rest ih => exact bind (hbody a) fun _ => ih

end Records

/-! ## Trees -/

section Trees

variable {n : Renderer} {P : Step → Prop}

/-- Loops are recorded if their bodies are.

**Proof sketch.** The cases of the header.  Whatever a loop evaluates puts out nothing, so it is
lifted, and the turns are recorded by assumption. -/
lemma records_recordLoop (header : LoopHeader) {x : Render Unit} {y : Recorder Unit}
    (hxy : Records n P x y) : Records n P (n.runLoop header x) (n.recordLoop header y) := by
  have hturn (line : Nat) (f : Frame) :
      Records n P (do Render.atLine line; Render.inFrame f x)
        (do Recorder.lift (Render.atLine line); Recorder.inFrame f y) :=
    .bind (.lift (.atLine line)) fun _ => .inFrame f hxy
  have htested {condition : Render Bool} (line : Nat) (h : condition.Silent) :
      Records n P (do Render.atLine line; condition)
        (Recorder.lift do Render.atLine line; condition) :=
    .lift (.bind (.atLine line) fun _ => h)
  cases header with
  | whileLoop condition =>
    exact .get fun q => .loop (htested _ (.test condition)) (.inFrame {} hxy) n.fuel
  | forOf binding iterable =>
    refine .get fun q => .bind (.lift (.onScope _)) fun v => ?_
    cases elementsOf v with
    | ok items => exact .forEach (fun _ => hturn _ _) items
    | error f => exact .lift (.fail f)
  | forIn binding object =>
    exact .get fun q => .bind (.lift (.onScope _)) fun v => .forEach (fun _ => hturn _ _) _
  | counted start condition update =>
    rw [runLoop_counted]
    refine .get fun q => .inFrame {} (.bind (.lift (.startWith start)) fun _ => ?_)
    exact .loop (htested _ (.testOptional condition))
      (.bind (.inFrame {} hxy) fun _ => .lift (.updateAt _ update)) n.fuel
  | forEach iterable item index =>
    refine .get fun q => .bind (.lift (.onScope _)) fun v => ?_
    cases v with
    | list items => exact .forEach (fun _ => hturn _ _) items.zipIdx
    | _ => exact .lift (.fail _)

/-- Conditions are recorded if what they guard is, and what is done otherwise. -/
lemma records_branch (condition : String) {yes no : Render Unit} {yes' no' : Recorder Unit}
    (hyes : Records n P yes yes') (hno : Records n P no no') :
    Records n P (do if ← n.test condition then yes else no)
      (do if ← Recorder.lift (n.test condition) then yes' else no') := by
  refine .bind (.lift (.test condition)) fun holds => ?_
  cases holds with
  | true => exact hyes
  | false => exact hno

mutual

/-- **Nodes are recorded,** where `P` allows for their steps.

**Proof sketch.** Induction on the tree: renderer and recorder go into the same parts. -/
theorem records_recordNode (node : Node) (hP : ∀ s, .step s ∈ node.marks → P s) :
    Records n P (n.runNode node) (n.recordNode node) := by
  cases node with
  | step s => exact .step (hP s (List.mem_singleton_self _))
  | exec fragment => exact .lift (.onScope _)
  | scope entry body =>
    have hbody := records_recordBlock body fun s hs =>
      hP s (List.mem_append_left _ (List.mem_cons_of_mem _ hs))
    exact .bind (.lift (.paramVars [] entry.params)) fun vars => .inScope entry _ hbody
  | branch condition body rest =>
    have hbody := records_recordBlock body fun s hs => hP s
      (List.mem_append_left _ (List.mem_append_left _ (List.mem_cons_of_mem _ hs)))
    have hrest := records_recordBranches rest fun s hs =>
      hP s (List.mem_append_left _ (List.mem_append_right _ hs))
    exact records_branch condition (.inFrame {} hbody) hrest
  | loop header body =>
    exact records_recordLoop header (records_recordBlock body fun s hs =>
      hP s (List.mem_append_left _ (List.mem_cons_of_mem _ hs)))

/-- **Blocks are recorded,** where `P` allows for their steps. -/
theorem records_recordBlock (block : Block) (hP : ∀ s, .step s ∈ block.marks → P s) :
    Records n P (n.runBlock block) (n.recordBlock block) := by
  cases block with
  | nil => exact .pure ()
  | cons head tail =>
    exact .bind (records_recordNode head fun s hs => hP s (List.mem_append_left _ hs)) fun _ =>
      records_recordBlock tail fun s hs => hP s (List.mem_append_right _ hs)

/-- **Alternatives are recorded,** where `P` allows for their steps. -/
theorem records_recordBranches (rest : Branches) (hP : ∀ s, .step s ∈ rest.marks → P s) :
    Records n P (n.runBranches rest) (n.recordBranches rest) := by
  cases rest with
  | none => exact .pure ()
  | otherwise body =>
    exact .inFrame {} (records_recordBlock body fun s hs => hP s (List.mem_cons_of_mem _ hs))
  | elseIf condition body rest =>
    have hbody := records_recordBlock body fun s hs =>
      hP s (List.mem_append_left _ (List.mem_cons_of_mem _ hs))
    have hrest := records_recordBranches rest fun s hs =>
      hP s (List.mem_append_right _ hs)
    exact records_branch condition (.inFrame {} hbody) hrest

end

end Trees

end Renderer

/-! ## What a step comes to -/

/-- Whether a step begins or ends a capture. -/
def Step.captures : Step → Bool
  | .beginCapture _ | .endCapture => true
  | _ => false

namespace Renderer

/-- The value of an expression as it is put out. -/
def shown (n : Renderer) (write : String → String) (expr : String) (r : Rendering) : String :=
  match (n.evaluate expr r).1 with
  | .ok v => write (n.evaluator.display v)
  | .error _ => ""

/-- The text that a step puts out. -/
def text (n : Renderer) : Visit → String
  | ⟨.append text, _⟩ => text
  | ⟨.appendEscaped expr, r⟩ => n.shown n.escape expr r
  | ⟨.appendRaw expr, r⟩ => n.shown id expr r
  | _ => ""

/-- **What a step comes to** that ends well. -/
inductive Effect (n : Renderer) (v : Visit) : Rendering → Prop
  /-- It puts out its text. -/
  | writes {r : Rendering} (plain : v.step.captures = false)
      (same : Rendering.SameOutput { v.before with output := v.before.output ++ n.text v } r) :
      n.Effect v r
  /-- It begins a capture where there is none. -/
  | begins {params : String} {value : Value} {r : Rendering} (step : v.step = .beginCapture params)
      (outside : v.before.capture = none)
      (evaluated : (n.evaluate params v.before).1 = .ok value)
      (same : Rendering.SameOutput
        { v.before with output := "", capture := some (v.before.output, value) } r) :
      n.Effect v r
  /-- It ends the capture. -/
  | ends {main : String} {params : Value} {r : Rendering} (step : v.step = .endCapture)
      (inside : v.before.capture = some (main, params))
      (same : Rendering.SameOutput
        { v.before with
          output := main, capture := none,
          blocks := v.before.blocks ++ [⟨v.before.output, params⟩] } r) :
      n.Effect v r

variable {n : Renderer}

/-- An expression that ends well, and what is done with its value. -/
lemma evaluate_bind_ok {expr : String} {g : Value → Render Unit} {r q : Rendering}
    (h : (n.evaluate expr >>= g) r = (.ok (), q)) :
    ∃ v t, (n.evaluate expr r).1 = .ok v ∧ r.SameOutput t ∧ g v t = (.ok (), q) := by
  have hsilent : (n.evaluate expr).Silent := .onScope _
  have hsame := hsilent r
  rw [Process.bind_apply] at h
  rcases hv : n.evaluate expr r with ⟨e | v, t⟩ <;> rw [hv] at h hsame
  · cases h
  · exact ⟨v, t, rfl, hsame, h⟩

/-- A capture that is to begin inside another one fails. -/
lemma runStep_beginCapture_of_some {params : String} {r : Rendering}
    (h : r.capture.isSome = true) :
    n.runStep (.beginCapture params) r = (.error (.fault (n.failure r .nestedCapture)), r) := by
  show (if r.capture.isSome = true then n.fail .nestedCapture >>= _ else _ : Render Unit) r = _
  rw [if_pos h]
  rfl

/-- A capture that begins outside every other. -/
lemma runStep_beginCapture_of_none {params : String} {r : Rendering} (h : r.capture = none) :
    n.runStep (.beginCapture params) r = (do
      let v ← n.evaluate params
      modify fun r => { r with output := "", capture := some (r.output, v) } : Render Unit) r := by
  show (if r.capture.isSome = true then _ else _ : Render Unit) r = _
  rw [h]
  rfl

/-- The end of a capture that has not begun fails. -/
lemma runStep_endCapture_of_none {r : Rendering} (h : r.capture = none) :
    n.runStep .endCapture r = (.error (.fault (n.failure r .strayEndCapture)), r) := by
  obtain ⟨scope, output, _, blocks, line, origins⟩ := r
  obtain rfl := h
  rfl

/-- The end of a capture. -/
lemma runStep_endCapture_of_some {main : String} {params : Value} {r : Rendering}
    (h : r.capture = some (main, params)) :
    n.runStep .endCapture r = (.ok (),
      { r with output := main, capture := none, blocks := r.blocks ++ [⟨r.output, params⟩] }) := by
  obtain ⟨scope, output, _, blocks, line, origins⟩ := r
  obtain rfl := h
  rfl

/-- **A step that ends well has its effect.**

**Proof sketch.** The cases of the step.  Where it evaluates, the effect is stated behind the
evaluation, which changes the scope, the line and the origins only. -/
theorem effect_of_runStep {v : Visit} {q : Rendering}
    (h : n.runStep v.step v.before = (.ok (), q)) : n.Effect v q := by
  obtain ⟨s, r⟩ := v
  cases s with
  | append text =>
    obtain rfl : { r with output := r.output ++ text } = q := congrArg Prod.snd h
    exact .writes rfl (.refl _)
  | appendEscaped expr | appendRaw expr =>
    obtain ⟨v, t, hv, ⟨scope, line, origins, rfl⟩, hq⟩ := evaluate_bind_ok h
    refine .writes rfl ⟨scope, line, origins, ?_⟩
    rw [text, shown, hv]
    exact (congrArg Prod.snd hq).symm
  | line number =>
    obtain rfl : { r with line := number } = q := congrArg Prod.snd h
    refine .writes rfl ⟨r.scope, number, r.origins, ?_⟩
    show _ = { r with output := r.output ++ "", line := number }
    rw [String.append_empty]
  | beginCapture params =>
    cases hcapture : r.capture with
    | some _ =>
      rw [runStep_beginCapture_of_some (by rw [hcapture]; rfl)] at h
      cases h
    | none =>
      rw [runStep_beginCapture_of_none hcapture] at h
      obtain ⟨v, t, hv, ⟨scope, line, origins, rfl⟩, hq⟩ := evaluate_bind_ok h
      exact .begins rfl hcapture hv ⟨scope, line, origins, (congrArg Prod.snd hq).symm⟩
  | endCapture =>
    rcases hcapture : r.capture with _ | ⟨main, params⟩
    · rw [runStep_endCapture_of_none hcapture] at h
      cases h
    · rw [runStep_endCapture_of_some hcapture] at h
      obtain rfl := congrArg Prod.snd h
      exact .ends rfl hcapture (.refl _)

end Renderer

/-! ## Artifacts -/

namespace Artifact

/-- The rendering that a template begins with. -/
def beginning (a : Artifact) (data : Value) : Rendering :=
  { scope := a.startScope data, origins := [a.origin] }

/-- **The recorded run of a template:** how it ends, and the steps that it has run until then.  If
the blocks do not nest, there are none. -/
def recorded (a : Artifact) (e : Evaluator) (fuel : Nat) (data : Value) :
    Except (Halt Failure) Unit × Recording :=
  match Block.ofProgram e.classify a.program with
  | .error f => (.error (.fault ⟨.unbalanced f, none⟩), ⟨a.beginning data, []⟩)
  | .ok block => (a.renderer e fuel).recordBlock block ⟨a.beginning data, []⟩

/-- A run that gives something has ended well and outside of every block. -/
lemma rendered_eq_ok {x : Except (Halt Failure) Unit × Rendering} {result : Rendered}
    (h : rendered x = .ok result) :
    x.1 = .ok () ∧ x.2.capture = none ∧ result = ⟨x.2.output, x.2.blocks⟩ := by
  obtain ⟨_ | _, r⟩ := x
  · cases h
  · rcases hcapture : r.capture with _ | _ <;> simp [rendered, hcapture] at h
    exact ⟨rfl, rfl, h.symm⟩

/-- The steps of a tree are instructions of its program. -/
lemma step_mem_program {classify : String → Fragment} {program : Program} {block : Block}
    (h : Block.ofProgram classify program = .ok block) {s : Step} (hs : .step s ∈ block.marks) :
    .step s ∈ program := by
  rw [← Block.ofProgram_eq_ok_iff.1 h] at hs
  obtain ⟨i, hi, hmark⟩ := List.mem_map.1 hs
  obtain rfl : i = .step s := Instruction.mark_eq_iff.1 hmark
  exact hi

/-- **A template is rendered as it is recorded,** and the record leads to where the run ends.  Its
steps are instructions of the program. -/
theorem recorded_spec (a : Artifact) (e : Evaluator) (fuel : Nat) (data : Value) :
    a.render e fuel data = rendered ((a.recorded e fuel data).map id Recording.now) ∧
      (a.renderer e fuel).Leads (.step · ∈ a.program) (a.recorded e fuel data) := by
  have hbegins : (a.renderer e fuel).Followed (.step · ∈ a.program) [] (a.beginning data) :=
    .start rfl rfl rfl
  rw [render_eq, recorded]
  cases hblock : Block.ofProgram e.classify a.program with
  | error f => exact ⟨rfl, .inl ⟨_, hbegins⟩⟩
  | ok block =>
    obtain ⟨hsame, hleads⟩ := Renderer.records_recordBlock (n := a.renderer e fuel) block
      (fun s => step_mem_program hblock) (q := ⟨a.beginning data, []⟩) hbegins
    exact ⟨congrArg rendered hsame.symm, hleads⟩

/-- The record of a run that ends well leads to its end. -/
lemma followed_recorded {a : Artifact} {e : Evaluator} {fuel : Nat} {data : Value}
    (h : (a.recorded e fuel data).1 = .ok ()) :
    (a.renderer e fuel).Followed (.step · ∈ a.program) (a.recorded e fuel data).2.visits
      (a.recorded e fuel data).2.now := by
  have hleads := (a.recorded_spec e fuel data).2
  rcases hrun : a.recorded e fuel data with ⟨_ | _, q⟩ <;> rw [hrun] at h hleads
  · cases h
  · exact hleads

end Artifact

end Stencil
