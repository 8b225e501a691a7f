import Stencil.Proofs.Render.Splicing
import Stencil.Proofs.Template.Delimiter
import Stencil.Proofs.Template.Placing

/-!
# Where failures are told to be

Rendering notes the line that it has come to as it passes the markers of lines, and the templates
that it is in.  A failure is told with what was noted last.  This is the line on which the code that
fails begins, unless a part of the template with lines of its own may have been skipped before it.

## Main definitions

* `Stencil.Renderer.runCode` — the run of a piece of code alone.
* `Stencil.Render.Locates` — a part of rendering whose failures arise at given sites.
* `Stencil.Render.Stays` — a part of rendering that stays at its place.

## Main results

* `Stencil.Renderer.locates_runNode`, `locates_runBlock`, `locates_runBranches` — failures of a tree
  arise at its sites.
* `Stencil.Artifact.render_failure_site` — a failure is told with the template of the site at which
  it arises, and with the line before the site if that is settled.
* `Stencil.Workspace.failure_place` — failures are told where the code is written.

## Design

`Locates` is a triple: what is known of the line before and behind a part of rendering, and the
sites at which the part may fail.  The lines are predicates, since a loop knows less of the line
behind its body than of the line before it.
-/

set_option relaxedAutoImplicit false
set_option autoImplicit false

namespace Stencil

open Script

/-! ## The run of code alone -/

namespace Renderer

/-- **The run of code alone.** -/
def runCode (n : Renderer) : Code → Render Unit
  | .expression text => do let _ ← n.evaluate text
  | .fragment text => n.execute text
  | .elements text => do let _ ← n.elements text
  | .items text => do let _ ← n.items text
  | .beginCapture params => n.runStep (.beginCapture params)
  | .endCapture => n.runStep .endCapture

end Renderer

/-- A failure that arises at one of some sites: it is that of the code there, run from a
rendering that is in the template of the site and at its line, if that is settled. -/
def Renderer.Blames (n : Renderer) (sites : List Site) (failure : Failure) : Prop :=
  ∃ site ∈ sites, ∃ r t, n.runCode site.code r = (.error (.fault failure), t) ∧
    r.origins.head? = some site.origin ∧ site.cursor.Covers r.line

/-! ## Parts of rendering -/

/-- **A part of rendering whose failures arise at given sites,** from any line that `before` allows
in a template.  If it ends well, it is in the template again, and at a line that `behind` allows. -/
def Render.Locates {α : Type} (n : Renderer) (o : Origin) (sites : List Site)
    (before behind : Nat → Prop) (x : Render α) : Prop :=
  ∀ ⦃r⦄, r.origins.head? = some o → before r.line →
    match x r with
    | (.ok _, t) => t.origins = r.origins ∧ behind t.line
    | (.error (.fault failure), _) => n.Blames sites failure
    | (.error .exhausted, _) => True

/-- The place that is told of a failure. -/
def Renderer.place (n : Renderer) (r : Rendering) : Option Place :=
  if n.diagnostics then r.origins.head?.map fun origin => ⟨origin, r.line⟩ else none

/-- **A part of rendering that stays at its place,** where its failures are told to be. -/
def Render.Stays {α : Type} (n : Renderer) (x : Render α) : Prop :=
  ∀ r, ((x r).2.origins = r.origins ∧ (x r).2.line = r.line) ∧
    ∀ ⦃failure⦄, (x r).1 = .error (.fault failure) → failure.place = n.place r

namespace Render

variable {α β : Type} {n : Renderer} {o : Origin} {sites : List Site} {P Q S : Nat → Prop}

/-! ### Staying at a place -/

namespace Stays

/-- A value. -/
lemma pure (a : α) : Stays n (pure a : Render α) := fun _ => ⟨⟨rfl, rfl⟩, fun _ h => by cases h⟩

/-- A fault. -/
lemma fail (f : Fault) : Stays n (n.fail f : Render α) :=
  fun _ => ⟨⟨rfl, rfl⟩, fun _ h => by cases h; rfl⟩

/-- Code run on the bindings. -/
lemma onScope (x : Run α) : Stays n (n.onScope x) := by
  intro r
  unfold Renderer.onScope
  rcases x r.scope with ⟨(_ | _) | _, scope⟩ <;>
    exact ⟨⟨rfl, rfl⟩, fun _ h => by cases h <;> rfl⟩

/-- A change of anything but the place. -/
lemma modify {f : Rendering → Rendering}
    (hf : ∀ r, (f r).origins = r.origins ∧ (f r).line = r.line) :
    Stays n (modify f : Render Unit) :=
  fun r => ⟨hf r, fun _ h => by cases h⟩

/-- A look at the rendering. -/
lemma get {g : Rendering → Render α} (hg : ∀ r, Stays n (g r)) : Stays n (get >>= g) :=
  fun r => hg r r

/-- Steps one after the other. -/
lemma bind {x : Render α} {g : α → Render β} (hx : Stays n x) (hg : ∀ a, Stays n (g a)) :
    Stays n (x >>= g) := by
  intro r
  obtain ⟨⟨horigins, hline⟩, hfailure⟩ := hx r
  rw [Process.bind_apply]
  rcases hxr : x r with ⟨e | a, t⟩ <;> rw [hxr] at horigins hline hfailure
  · exact ⟨⟨horigins, hline⟩, fun _ h => hfailure (by cases h; rfl)⟩
  · obtain ⟨⟨horigins', hline'⟩, hfailure'⟩ := hg a t
    have hplace : n.place t = n.place r := by unfold Renderer.place; rw [horigins, hline]
    exact ⟨⟨horigins'.trans horigins, hline'.trans hline⟩,
      fun _ h => (hfailure' h).trans hplace⟩

end Stays

/-! ### Locating the failures of parts -/

namespace Locates

/-- Failures that arise at some sites arise at these among more. -/
lemma among {sites' : List Site} {x : Render α} (h : Locates n o sites P Q x)
    (hsites : sites ⊆ sites') : Locates n o sites' P Q x := by
  intro r ho hr
  have hx := h ho hr
  rcases hxr : x r with ⟨(failure | _) | a, t⟩ <;> rw [hxr] at hx
  · obtain ⟨site, hsite, hblames⟩ := hx
    exact ⟨site, hsites hsite, hblames⟩
  · trivial
  · exact hx

/-- Less may be allowed of the line before. -/
lemma strengthen {P' : Nat → Prop} {x : Render α} (h : Locates n o sites P Q x)
    (hP : ∀ ⦃line⦄, P' line → P line) : Locates n o sites P' Q x :=
  fun _ ho hr => h ho (hP hr)

/-- More may be allowed of the line behind. -/
lemma weaken {Q' : Nat → Prop} {x : Render α} (h : Locates n o sites P Q x)
    (hQ : ∀ ⦃line⦄, Q line → Q' line) : Locates n o sites P Q' x := by
  intro r ho hr
  have hx := h ho hr
  rcases hxr : x r with ⟨(failure | _) | a, t⟩ <;> rw [hxr] at hx
  · exact hx
  · trivial
  · exact ⟨hx.1, hQ hx.2⟩

/-- A value does not fail. -/
lemma pure (a : α) : Locates n o sites P P (pure a : Render α) := fun _ _ hr => ⟨rfl, hr⟩

/-- What does not fail and stays at its place. -/
lemma modify {f : Rendering → Rendering}
    (hf : ∀ r, (f r).origins = r.origins ∧ (f r).line = r.line) :
    Locates n o sites P P (modify f : Render Unit) := by
  intro r _ hr
  refine ⟨(hf r).1, ?_⟩
  show P (f r).line
  rw [(hf r).2]
  exact hr

/-- A line that is noted. -/
lemma atLine (line : Nat) : Locates n o sites P (· = line) (Render.atLine line) :=
  fun _ _ _ => ⟨rfl, rfl⟩

/-- Steps one after the other. -/
lemma bind {x : Render α} {g : α → Render β} (hx : Locates n o sites P Q x)
    (hg : ∀ a, Locates n o sites Q S (g a)) : Locates n o sites P S (x >>= g) := by
  intro r ho hr
  have h := hx ho hr
  rw [Process.bind_apply]
  rcases hxr : x r with ⟨(failure | _) | a, t⟩ <;> rw [hxr] at h
  · exact h
  · trivial
  · have horigins : t.origins = r.origins := h.1
    have hga := hg a (r := t) (horigins ▸ ho) h.2
    rw [horigins] at hga
    exact hga

/-- A look at the line. -/
lemma getLine {g : Rendering → Render α}
    (hg : ∀ r, P r.line → Locates n o sites (· = r.line) Q (g r)) :
    Locates n o sites P Q (get >>= g) :=
  fun r ho hr => hg r hr ho rfl

/-- Code at its site. -/
lemma code {c : Code} {cursor : Cursor} {x : Render α} (hsite : ⟨c, o, cursor⟩ ∈ sites)
    (hcursor : ∀ ⦃line⦄, P line → cursor.Covers line)
    (hx : ∀ ⦃r failure t⦄, x r = (.error (.fault failure), t) →
      n.runCode c r = (.error (.fault failure), t))
    (hstays : Stays n x) : Locates n o sites P P x := by
  intro r ho hr
  obtain ⟨⟨horigins, hline⟩, -⟩ := hstays r
  rcases hxr : x r with ⟨(failure | _) | a, t⟩ <;> rw [hxr] at hline horigins
  · exact ⟨_, hsite, r, t, hx hxr, ho, hcursor hr⟩
  · trivial
  · exact ⟨horigins, hline.symm ▸ hr⟩

/-- A body between an entry and an exit. -/
lemma within {o' : Origin} {P' Q' : Nat → Prop} {body : Render α} {g : Rendering → Rendering}
    {h : Rendering → Rendering → Rendering} (hbody : Locates n o' sites P' Q' body)
    (hg : ∀ r, r.origins.head? = some o → P r.line →
      (g r).origins.head? = some o' ∧ P' (g r).line)
    (hback : ∀ r t, P r.line → t.origins = (g r).origins → Q' t.line →
      (h r t).origins = r.origins ∧ Q (h r t).line) :
    Locates n o sites P Q fun r => ((body (g r)).1, h r (body (g r)).2) := by
  intro r ho hr
  obtain ⟨ho', hr'⟩ := hg r ho hr
  have hafter := hbody ho' hr'
  dsimp only
  rcases hx : body (g r) with ⟨(failure | _) | a, t⟩ <;> rw [hx] at hafter
  · exact hafter
  · trivial
  · exact hback r t hr hafter.1 hafter.2

/-- A body in a frame of its own. -/
lemma inFrame {body : Render α} (f : Frame) (hbody : Locates n o sites P Q body) :
    Locates n o sites P Q (Render.inFrame f body) :=
  within (g := enterFrame f) (h := leaveFrame) hbody (fun _ ho hr => ⟨ho, hr⟩)
    fun _ _ _ ho hr => ⟨ho, hr⟩

/-- A body in the scope of an include whose place is not told. -/
lemma inScope_none {entry : ScopeEntry} (hentry : entry.origin = none) (vars : Fields Value)
    {body : Render Unit} (hbody : Locates n o sites P Q body) :
    Locates n o sites P Q (Render.inScope entry vars body) := by
  rw [inScope_eq]
  refine within hbody (fun r ho hr => ?_) fun r t _ ho hr => ?_ <;>
    simp only [enterScope, leaveScope, hentry] at *
  · exact ⟨ho, hr⟩
  · exact ⟨ho, hr⟩

/-- A body in the scope of an include: it begins at the first line of its template, and the line
before it is taken back. -/
lemma inScope_some {entry : ScopeEntry} {inner : Origin} (hentry : entry.origin = some inner)
    (vars : Fields Value) {body : Render Unit} (hbody : Locates n inner sites (· = 1) Q body) :
    Locates n o sites P P (Render.inScope entry vars body) := by
  rw [inScope_eq]
  refine within hbody (fun r _ _ => ?_) fun r t hr ho _ => ?_
  · simp only [enterScope, hentry, List.head?_cons, and_self]
  · simp only [enterScope, hentry] at ho
    simp only [leaveScope, hentry, ho, List.tail_cons, true_and]
    exact hr

/-- A loop while a condition holds, which is tested at some line. -/
lemma loop {condition : Render Bool} {body : Render Unit}
    (hcondition : Locates n o sites P Q condition) (hbody : Locates n o sites Q P body)
    (fuel : Nat) : Locates n o sites P Q (Process.loop condition body fuel) := by
  induction fuel with
  | zero => exact fun _ _ _ => trivial
  | succ fuel ih =>
    refine bind hcondition fun holds => ?_
    cases holds with
    | false => exact pure ()
    | true => exact bind hbody fun _ => ih

/-- A loop over a list. -/
lemma forEach {body : α → Render Unit} (hbody : ∀ a, Locates n o sites P P (body a))
    (list : List α) : Locates n o sites P P (Process.forEach body list) := by
  induction list with
  | nil => exact pure ()
  | cons a rest ih => exact bind (hbody a) fun _ => ih

end Locates

end Render

namespace Renderer

open Render (Locates Stays)

variable {n : Renderer} {o : Origin} {c : Cursor} {sites : List Site} {P : Nat → Prop}

/-! ## Code -/

/-- What is run for its failures alone fails as it does. -/
lemma seq_error {α β : Type} {x : Render α} {g : α → Render β} {r t : Rendering} {h : Halt Failure}
    (hx : x r = (.error h, t)) : (x >>= g) r = (.error h, t) := by
  rw [Process.bind_apply, hx]

/-- The elements that a loop visits are found without leaving the place. -/
lemma stays_elements (iterable : String) : Stays n (n.elements iterable) := by
  refine .bind (.onScope _) fun v => ?_
  split
  · exact .pure _
  · exact .fail _

/-- The elements that are handed to a callback are found without leaving the place. -/
lemma stays_items (iterable : String) : Stays n (n.items iterable) := by
  refine .bind (.onScope _) fun v => ?_
  split
  · exact .pure _
  · exact .fail _
  · exact .fail _

/-- A block that is kept apart begins without leaving the place. -/
lemma stays_beginCapture (params : String) : Stays n (n.runStep (.beginCapture params)) := by
  have hbegin : Stays n (do
      let v ← n.evaluate params
      modify fun r => { r with output := "", capture := some (r.output, v) } : Render Unit) :=
    .bind (.onScope _) fun v => .modify fun r => ⟨rfl, rfl⟩
  refine .get fun r => ?_
  split
  · exact .bind (.fail _) fun _ => hbegin
  · exact hbegin

/-- A block that is kept apart ends without leaving the place. -/
lemma stays_endCapture : Stays n (n.runStep .endCapture) := by
  refine .get fun r => ?_
  split
  · exact .fail _
  · exact .modify fun r => ⟨rfl, rfl⟩

/-- Code runs without leaving the place, where its failures are told to be. -/
lemma stays_runCode (code : Code) : Stays n (n.runCode code) := by
  cases code with
  | expression text => exact .bind (.onScope _) fun _ => .pure ()
  | fragment text => exact .onScope _
  | elements text => exact .bind (stays_elements text) fun _ => .pure ()
  | items text => exact .bind (stays_items text) fun _ => .pure ()
  | beginCapture params => exact stays_beginCapture params
  | endCapture => exact stays_endCapture

section Code

variable (hP : ∀ ⦃line⦄, P line → c.Covers line)

include hP

/-- An expression at its site. -/
lemma locates_evaluate {text : String} (hsite : ⟨.expression text, o, c⟩ ∈ sites) :
    Locates n o sites P P (n.evaluate text) :=
  .code hsite hP (fun _ _ _ h => seq_error h) (.onScope _)

/-- A fragment at its site. -/
lemma locates_execute {text : String} (hsite : ⟨.fragment text, o, c⟩ ∈ sites) :
    Locates n o sites P P (n.execute text) :=
  .code hsite hP (fun _ _ _ h => h) (.onScope _)

/-- A condition at its site. -/
lemma locates_test {text : String} (hsite : ⟨.expression text, o, c⟩ ∈ sites) :
    Locates n o sites P P (n.test text) :=
  .bind (locates_evaluate hP hsite) fun v => .pure v.truthy

/-- The parameters of a scope at their sites. -/
lemma locates_paramVars (vars : Fields Value) {params : List String}
    (hsites : params.map (⟨.expression ·, o, c⟩) ⊆ sites) :
    Locates n o sites P P (n.paramVars vars params) := by
  induction params generalizing vars with
  | nil => exact .pure vars
  | cons param rest ih =>
    obtain ⟨hsite, hrest⟩ := List.cons_subset.1 hsites
    refine .bind (locates_evaluate hP hsite) fun v => ?_
    cases v <;> exact ih _ hrest

/-- The start of a counted loop at its site. -/
lemma locates_startWith {start : Option String}
    (hsites : start.toList.map (⟨.fragment ·, o, c⟩) ⊆ sites) :
    Locates n o sites P P (n.startWith start) := by
  cases start with
  | none => exact .pure ()
  | some text => exact locates_execute hP (hsites (List.mem_singleton_self _))

/-- The condition of a counted loop at its site. -/
lemma locates_testOptional {condition : Option String}
    (hsites : condition.toList.map (⟨.expression ·, o, c⟩) ⊆ sites) :
    Locates n o sites P P (n.testOptional condition) := by
  cases condition with
  | none => exact .pure true
  | some text => exact locates_test hP (hsites (List.mem_singleton_self _))

end Code

/-- The update of a counted loop at its site. -/
lemma locates_updateAt {line : Nat} (hline : c.Covers line) {update : Option String}
    (hsites : update.toList.map (⟨.fragment ·, o, c⟩) ⊆ sites) :
    Locates n o sites P (fun _ => True) (n.updateAt line update) := by
  cases update with
  | none => exact Locates.weaken (.pure ()) fun _ _ => trivial
  | some text =>
    have hexecute : Locates n o sites (· = line) (· = line) (n.execute text) :=
      locates_execute (fun _ h => h ▸ hline) (hsites (List.mem_singleton_self _))
    exact .bind (.atLine line) fun _ => hexecute.weaken fun _ _ => trivial

/-- Steps at their sites. -/
theorem locates_runStep (s : Step) :
    Locates n o (s.codes.map (⟨·, o, c⟩)) c.Covers (Node.after c (.step s)).Covers
      (n.runStep s) := by
  have hP : ∀ ⦃line⦄, c.Covers line → c.Covers line := fun _ h => h
  cases s with
  | append text => exact .modify fun _ => ⟨rfl, rfl⟩
  | appendEscaped expr =>
    exact .bind (locates_evaluate hP (List.mem_singleton_self _)) fun _ =>
      .modify fun _ => ⟨rfl, rfl⟩
  | appendRaw expr =>
    exact .bind (locates_evaluate hP (List.mem_singleton_self _)) fun _ =>
      .modify fun _ => ⟨rfl, rfl⟩
  | line number =>
    exact (Locates.atLine number).weaken fun _ h _ => h
  | beginCapture params =>
    exact .code (List.mem_singleton_self _) hP (fun _ _ _ h => h) (stays_beginCapture params)
  | endCapture => exact .code (List.mem_singleton_self _) hP (fun _ _ _ h => h) stays_endCapture

/-! ## Loops -/

section Loops

variable {a : Cursor} {body : Render Unit}
  (hbody : Locates n o sites c.Covers a.Covers body)

include hbody

/-- A turn of a loop, at the line of the loop. -/
lemma locates_turn {line : Nat} (hline : c.Covers line) (f : Frame) :
    Locates n o sites P a.Covers (do Render.atLine line; Render.inFrame f body) :=
  .bind (.atLine line) fun _ => (hbody.inFrame f).strengthen fun _ h => h ▸ hline

/-- Turns of a loop, one after the other. -/
lemma locates_turns {α : Type} {line : Nat} (hline : c.Covers line) (f : α → Frame)
    (list : List α) :
    Locates n o sites (· = line) (c.merge a).Covers
      (Process.forEach (fun x => do Render.atLine line; Render.inFrame (f x) body) list) := by
  refine (Locates.forEach (P := (c.merge a).Covers) (fun x => ?_) list).strengthen
    fun _ h => h ▸ hline.merge_left
  exact (locates_turn hbody hline (f x)).weaken fun _ h => h.merge_right

/-- Loops at their sites.

**Proof sketch.** Each test and each turn begins at the line of the loop.  A loop with a condition
ends at that line; any other ends there or where its body does. -/
theorem locates_runLoop {header : LoopHeader}
    (hsites : header.codes.map (⟨·, o, c⟩) ⊆ sites) :
    Locates n o sites c.Covers (c.merge a).Covers (n.runLoop header body) := by
  have hat {line : Nat} (hline : c.Covers line) : ∀ ⦃l⦄, l = line → c.Covers l :=
    fun _ h => h ▸ hline
  cases header with
  | whileLoop condition =>
    refine .getLine fun r hr => ?_
    -- The test takes the line back, so nothing need be known of the line behind a turn.
    have htest : Locates n o sites (fun _ => True) (· = r.line)
        (do Render.atLine r.line; n.test condition) :=
      .bind (.atLine r.line) fun _ =>
        locates_test (hat hr) (hsites (List.mem_singleton_self _))
    have hturn : Locates n o sites (· = r.line) (fun _ => True) (Render.inFrame {} body) :=
      ((hbody.inFrame {}).strengthen (hat hr)).weaken fun _ _ => trivial
    exact ((htest.loop hturn n.fuel).strengthen fun _ _ => trivial).weaken
      fun _ h => Cursor.Covers.merge_left (hat hr h)
  | forOf binding iterable =>
    rw [runLoop_forOf]
    refine .getLine fun r hr => .bind ?_ (locates_turns hbody hr _)
    exact .code (hsites (List.mem_singleton_self _)) (hat hr) (fun _ _ _ h => seq_error h)
      (stays_elements iterable)
  | forIn binding object =>
    exact .getLine fun r hr =>
      .bind (locates_evaluate (hat hr) (hsites (List.mem_singleton_self _))) fun v =>
        locates_turns hbody hr _ v.keys
  | counted start condition update =>
    simp only [LoopHeader.codes, List.map_append, List.map_map, List.append_subset] at hsites
    obtain ⟨⟨hstart, hcondition⟩, hupdate⟩ := hsites
    rw [runLoop_counted]
    refine .getLine fun r hr => .inFrame {} (.bind (locates_startWith (hat hr) hstart) fun _ => ?_)
    have htest : Locates n o sites (fun _ => True) (· = r.line)
        (do Render.atLine r.line; n.testOptional condition) :=
      .bind (.atLine r.line) fun _ => locates_testOptional (hat hr) hcondition
    have hturn : Locates n o sites (· = r.line) (fun _ => True)
        (do Render.inFrame {} body; n.updateAt r.line update) :=
      .bind ((hbody.inFrame {}).strengthen (hat hr)) fun _ => locates_updateAt hr hupdate
    exact ((htest.loop hturn n.fuel).strengthen fun _ _ => trivial).weaken
      fun _ h => Cursor.Covers.merge_left (hat hr h)
  | forEach iterable item index =>
    rw [runLoop_forEach]
    refine .getLine fun r hr => .bind ?_ fun values => locates_turns hbody hr _ values.zipIdx
    exact .code (hsites (List.mem_singleton_self _)) (hat hr) (fun _ _ _ h => seq_error h)
      (stays_items iterable)

end Loops

/-! ## Trees -/

/-- A condition at its site, with what it guards and what is done otherwise. -/
lemma locates_branch {condition : String} {a b : Cursor} {yes no : Render Unit}
    {sites' : List Site} (hyes : Locates n o sites c.Covers a.Covers yes)
    (hno : Locates n o sites' (c.merge a).Covers b.Covers no)
    (hb : ∀ ⦃line⦄, (c.merge a).Covers line → b.Covers line) :
    Locates n o (⟨.expression condition, o, c⟩ :: sites ++ sites') c.Covers b.Covers
      (do if ← n.test condition then yes else no) := by
  refine .bind (locates_test (fun _ h => h) List.mem_cons_self) fun holds => ?_
  cases holds with
  | true =>
    have hsites : sites ⊆ ⟨.expression condition, o, c⟩ :: sites ++ sites' :=
      List.Subset.trans (List.subset_append_left _ _) (List.subset_cons_self _ _)
    exact (hyes.among hsites).weaken fun _ h => hb h.merge_right
  | false =>
    exact (hno.among (List.subset_append_right _ _)).strengthen fun _ h => h.merge_left

/-- A scope at its site, with the code in it. -/
lemma locates_scope {entry : ScopeEntry} {x : Render Unit} {Q : Nat → Prop}
    (hx : ∀ vars, Locates n o sites c.Covers Q (Render.inScope entry vars x)) :
    Locates n o (entry.params.map (⟨.expression ·, o, c⟩) ++ sites) c.Covers Q
      (do
        let vars ← n.paramVars [] entry.params
        Render.inScope entry (withLocals entry.isolated vars) x) :=
  .bind (locates_paramVars (fun _ h => h) [] (List.subset_append_left _ _)) fun _ =>
    (hx _).among (List.subset_append_right _ _)

mutual

/-- **Failures of a node arise at its sites.**

**Proof sketch.** Induction on the tree, from every cursor and in every template.  A body that may
be skipped leaves the line where it was before it or behind it, and the cursors merge
accordingly. -/
theorem locates_runNode (n : Renderer) (o : Origin) (c : Cursor) (node : Node) :
    Locates n o (node.sites o c) c.Covers (node.after c).Covers (n.runNode node) := by
  cases node with
  | step s => exact locates_runStep s
  | exec fragment => exact locates_execute (fun _ h => h) (List.mem_singleton_self _)
  | scope entry body =>
    rcases entry with ⟨params, isolated, _ | inner⟩
    · exact locates_scope fun vars => .inScope_none rfl vars (locates_runBlock n o c body)
    · exact locates_scope fun vars => .inScope_some rfl vars
        ((locates_runBlock n inner ⟨1, true⟩ body).strengthen fun _ h _ => h)
  | branch condition body rest =>
    exact locates_branch (.inFrame {} (locates_runBlock n o c body))
      (locates_runBranches n o _ rest) fun _ h => rest.covers_after h
  | loop header body =>
    exact locates_runLoop ((locates_runBlock n o c body).among (List.subset_append_right _ _))
      (List.subset_append_left _ _)

/-- **Failures of a block arise at its sites.** -/
theorem locates_runBlock (n : Renderer) (o : Origin) (c : Cursor) (block : Block) :
    Locates n o (block.sites o c) c.Covers (block.after c).Covers (n.runBlock block) := by
  cases block with
  | nil => exact .pure ()
  | cons head tail =>
    exact .bind ((locates_runNode n o c head).among (List.subset_append_left _ _)) fun _ =>
      (locates_runBlock n o _ tail).among (List.subset_append_right _ _)

/-- **Failures of alternatives arise at their sites.** -/
theorem locates_runBranches (n : Renderer) (o : Origin) (c : Cursor) (rest : Branches) :
    Locates n o (rest.sites o c) c.Covers (rest.after c).Covers (n.runBranches rest) := by
  cases rest with
  | none => exact .pure ()
  | otherwise body =>
    exact Locates.weaken (.inFrame {} (locates_runBlock n o c body)) fun _ h => h.merge_right
  | elseIf condition body rest =>
    exact locates_branch (.inFrame {} (locates_runBlock n o c body))
      (locates_runBranches n o _ rest) fun _ h => rest.covers_after h

end

/-- The place that is told of a failure at some site. -/
lemma Blames.place_eq {sites : List Site} {failure : Failure}
    (hdiagnostics : n.diagnostics = true) (h : n.Blames sites failure) :
    ∃ site ∈ sites, ∃ r t, n.runCode site.code r = (.error (.fault failure), t) ∧
      failure.place = some ⟨site.origin, r.line⟩ ∧
      (site.cursor.settled = true → r.line = site.cursor.line) := by
  obtain ⟨site, hsite, r, t, hrun, horigin, hline⟩ := h
  refine ⟨site, hsite, r, t, hrun, ?_, hline⟩
  rw [(stays_runCode site.code r).2 (congrArg Prod.fst hrun), place, if_pos hdiagnostics, horigin]
  rfl

end Renderer

/-! ## Artifacts -/

namespace Artifact

/-- **A failure is that of code in the tree.**  It is told with the template in which the code
stands, and with the line before the code if that is settled.

**Proof sketch.** A failure in the run of the blocks is one of its sites (`locates_runBlock`); any
other failure is that of the structure or of a capture that is left open. -/
theorem render_failure_site {a : Artifact} {e : Evaluator} {fuel : Nat} {data : Value}
    {failure : Failure} (hdiagnostics : a.options.diagnostics = true)
    (h : a.render e fuel data = .error (.fault failure)) :
    (∃ f, failure = ⟨.unbalanced f, none⟩) ∨
      ∃ b, Block.ofProgram e.classify a.program = .ok b ∧
        ∃ site ∈ b.sites a.origin ⟨1, true⟩, ∃ r t,
          (a.renderer e fuel).runCode site.code r = (.error (.fault failure), t) ∧
          failure.place = some ⟨site.origin, r.line⟩ ∧
          (site.cursor.settled = true → r.line = site.cursor.line) := by
  unfold render at h
  split at h
  · next f _ => cases h; exact .inl ⟨f, rfl⟩
  · next b hb =>
    have hruns := (a.renderer e fuel).locates_runBlock a.origin ⟨1, true⟩ b
      (r := { scope := a.startScope data, origins := [a.origin] }) rfl fun _ => rfl
    rw [renderer] at hruns
    dsimp only at h
    split at h
    · next hrun =>
      cases h
      rw [hrun] at hruns
      exact .inr ⟨b, hb, hruns.place_eq hdiagnostics⟩
    · split at h <;> cases h
      exact .inl ⟨_, rfl⟩

end Artifact

namespace Workspace

variable {w : Workspace} {options : Options} {text : String} {a : Artifact}

/-- What an artifact holds. -/
lemma exists_of_artifact (ha : w.artifact options text = .ok a) :
    ∃ c, Template.expand w (.ofText options text) = .ok c ∧ a.program = c.program ∧
      a.options = options ∧ a.origin = (Template.ofText options text).origin := by
  unfold artifact compile at ha
  cases hc : Template.expand w (.ofText options text) with
  | error e => rw [hc] at ha; cases ha
  | ok c =>
    rw [hc] at ha
    cases ha
    exact ⟨c, rfl, rfl, rfl, congrArg (Origin.mk _) (Template.text_of_expand hc)⟩

/-- The code in the tree of a template stands where it is written, in the template itself or in
one that is entered from it. -/
theorem holds_of_mem_sites (hdiagnostics : options.diagnostics = true)
    (ha : w.artifact options text = .ok a) {classify : String → Fragment} {b : Block}
    (hb : Block.ofProgram classify a.program = .ok b) {site : Site}
    (hsite : site ∈ b.sites a.origin ⟨1, true⟩) :
    (Template.ofText options text).Holds w classify site.code
      ⟨site.origin, site.cursor.line⟩ := by
  obtain ⟨c, hc, hprogram, -, horigin⟩ := exists_of_artifact ha
  rw [hprogram] at hb
  rw [horigin] at hsite
  obtain ⟨last, hplaced⟩ := Template.placed_expand classify .root hdiagnostics hc
  obtain ⟨found, hwalk, hgood⟩ := hplaced []
  have hsites := (b.walk_marks (c := ⟨1, true⟩) rfl).symm.trans
    (Block.ofProgram_eq_ok_iff.1 hb ▸ hwalk)
  rw [Prod.mk.injEq] at hsites
  exact hgood site.written (hsites.1 ▸ List.mem_map_of_mem hsite)

/-- **Failures are told where the code is written.**  A failure is that of code of the template, or
of one that is entered from it, unless the blocks do not nest.  It is told with the template of the
code, and with the line on which the segment of the code begins, if that is settled.  It is settled
everywhere if the conditions and loops end on the line on which they begin.

**Proof sketch.** The failure is told with what was noted last (`Artifact.render_failure_site`).
This is what is written last before the code, as far as it is settled, and what is written there is
the line of the code (`holds_of_mem_sites`). -/
theorem failure_place (hdiagnostics : options.diagnostics = true)
    (ha : w.artifact options text = .ok a) {e : Evaluator} {fuel : Nat} {data : Value}
    {failure : Failure} (h : a.render e fuel data = .error (.fault failure)) :
    (∃ f, failure = ⟨.unbalanced f, none⟩) ∨
      ∃ b, Block.ofProgram e.classify a.program = .ok b ∧
        ∃ site ∈ b.sites a.origin ⟨1, true⟩,
          (Template.ofText options text).Holds w e.classify site.code
            ⟨site.origin, site.cursor.line⟩ ∧
          (b.compact = true → site.cursor.settled = true) ∧
          ∃ r t, (a.renderer e fuel).runCode site.code r = (.error (.fault failure), t) ∧
            failure.place = some ⟨site.origin, r.line⟩ ∧
            (site.cursor.settled = true → r.line = site.cursor.line) := by
  obtain ⟨-, -, -, hoptions, -⟩ := exists_of_artifact ha
  have hlocated : a.options.diagnostics = true := by rw [hoptions, hdiagnostics]
  rcases Artifact.render_failure_site hlocated h with hfault | ⟨b, hb, site, hsite, hfails⟩
  · exact .inl hfault
  · have hsettled (hcompact : b.compact = true) : site.cursor.settled = true :=
      (b.settled_of_compact rfl hcompact).2 site hsite
    exact .inr ⟨b, hb, site, hsite, holds_of_mem_sites hdiagnostics ha hb hsite, hsettled, hfails⟩

/-- The artifact of a template without directives in which every opening tag is closed. -/
lemma exists_artifact (w : Workspace) (text : String) (pieces : List Piece) (program : Program)
    {origin : Origin} (hpieces : (Template.ofText {} text).pieces = pieces)
    (hfree : Piece.directives none pieces = []) (hclosed : Piece.unclosed? pieces = none)
    (hprogram : (Reader.emissions {} {} pieces).map (Emission.spell '%') = program)
    (horigin : (Template.ofText {} text).origin = origin) :
    ∃ dependencies assets,
      w.artifact {} text = .ok ⟨program, {}, origin, dependencies, assets⟩ := by
  subst hpieces hprogram horigin
  have ht : (Template.ofText {} text).options = { ({} : Options) with delimiter := '%' } := rfl
  obtain ⟨c, hc, hprogram⟩ := Template.expand_of_closed (w := w) (by decide) ht hfree hclosed
  refine ⟨c.dependencies, c.assets, ?_⟩
  unfold artifact compile
  rw [hc, ← hprogram, Template.origin, ← Template.text_of_expand hc]
  rfl

/-- A failure on the second line of a template. -/
theorem failure_place_output :
    let w : Workspace := { library := Templates.library {}, lookup := Registry.lookup {} }
    let text := "a\n<%= b %>"
    let failure : Failure := ⟨.undefinedName "b", some ⟨⟨"ejs", text⟩, 2⟩⟩
    ∃ a, w.artifact {} text = .ok a ∧ a.render (.script []) 0 .null = .error (.fault failure) ∧
      ∃ b, Block.ofProgram Fragment.classify a.program = .ok b ∧
        ∃ site ∈ b.sites a.origin ⟨1, true⟩,
          (Template.ofText {} text).Holds w Fragment.classify site.code
            ⟨site.origin, site.cursor.line⟩ ∧
          (b.compact = true → site.cursor.settled = true) ∧
          ∃ r t, (a.renderer (.script []) 0).runCode site.code r = (.error (.fault failure), t) ∧
            failure.place = some ⟨site.origin, r.line⟩ ∧
            (site.cursor.settled = true → r.line = site.cursor.line) := by
  intro w text failure
  have htokens : Token.ofChars "b".toList = .ok [.word "b"] :=
    Token.ofChars_cons_ok (some (.word "b")) (by rfl) Token.ofChars_nil
  have hread : Expr.ofText "b" = .ok (.name "b") := by
    rw [Expr.ofText, htokens]
    rfl
  let program : Program := [.append "a\n", .line 2, .appendEscaped "b"]
  have horigin : (Template.ofText {} text).origin = ⟨"ejs", text⟩ := by decide +kernel
  obtain ⟨dependencies, assets, ha⟩ := exists_artifact w text
    [.literal "a\n".toList, .tag .openEscaped, .literal " b ".toList, .tag .close] program
    (by decide +kernel) rfl rfl (by decide +kernel) horigin
  have hclassify : (Evaluator.script []).classify = Fragment.classify := rfl
  let a : Artifact := ⟨program, {}, ⟨"ejs", text⟩, dependencies, assets⟩
  have hblock : Block.ofProgram Fragment.classify a.program = .ok (.cons (.step (.append "a\n"))
      (.cons (.step (.line 2)) (.cons (.step (.appendEscaped "b")) .nil))) :=
    Block.ofProgram_eq_ok_iff.2 rfl
  have hfails : a.render (.script []) 0 .null = .error (.fault failure) := by
    rw [Artifact.render_eq, hclassify, hblock]
    simp only [Renderer.runBlock, Renderer.runNode, Renderer.runStep, Renderer.evaluate,
      Evaluator.script_evaluate [] hread]
    rfl
  refine ⟨a, ha, hfails, (failure_place rfl ha hfails).resolve_left ?_⟩
  rintro ⟨f, hf⟩
  simp [failure] at hf

/-- A failure on the second line of a template that is told with the first, where the condition
stands: the body that is skipped has the marker of the second line in it. -/
theorem failure_place_skipped :
    let w : Workspace := { library := Templates.library {}, lookup := Registry.lookup {} }
    let text := "<% if (a) \x7b %>\n<% \x7d %><%= missing %>"
    let data : Value := .object [("a", .bool false)]
    ∃ a before behind, w.artifact {} text = .ok a ∧
      Segment.split '%' a.origin.text = before ++ ⟨" missing ", 25, none⟩ :: behind ∧
      Segment.lineBehind before = 2 ∧
      a.render (.script []) 0 data =
        .error (.fault ⟨.undefinedName "missing", some ⟨⟨"ejs", text⟩, 1⟩⟩) := by
  intro w text data
  -- The lexer does not compute by itself, so the tokens are given step by step.
  have hcondition : Expr.ofText "a" = .ok (.name "a") := by
    have htokens : Token.ofChars "a".toList = .ok [.word "a"] :=
      Token.ofChars_cons_ok (some (.word "a")) (by rfl) Token.ofChars_nil
    rw [Expr.ofText, htokens]
    rfl
  have hmissing : Expr.ofText "missing" = .ok (.name "missing") := by
    have htokens : Token.ofChars "missing".toList = .ok [.word "missing"] :=
      Token.ofChars_cons_ok (some (.word "missing")) (by rfl) Token.ofChars_nil
    rw [Expr.ofText, htokens]
    rfl
  let program : Program :=
    [.exec " if (a) \x7b ", .line 2, .exec " \x7d ", .appendEscaped "missing"]
  have horigin : (Template.ofText {} text).origin = ⟨"ejs", text⟩ := by decide +kernel
  obtain ⟨dependencies, assets, ha⟩ := exists_artifact w text
    [.tag .openCode, .literal " if (a) \x7b ".toList, .tag .close, .literal "\n".toList,
      .tag .openCode, .literal " \x7d ".toList, .tag .close, .tag .openEscaped,
      .literal " missing ".toList, .tag .close] program
    (by decide +kernel) rfl rfl (by decide +kernel) horigin
  have hclassify : (Evaluator.script []).classify = Fragment.classify := rfl
  let a : Artifact := ⟨program, {}, ⟨"ejs", text⟩, dependencies, assets⟩
  have hblock : Block.ofProgram Fragment.classify a.program = .ok (.cons (.branch "a"
      (.cons (.step (.line 2)) .nil) .none) (.cons (.step (.appendEscaped "missing")) .nil)) :=
    Block.ofProgram_eq_ok_iff.2 rfl
  refine ⟨a, (Segment.split '%' text).take 8, (Segment.split '%' text).drop 9, ha, ?_, ?_, ?_⟩
  · show Segment.split '%' text = _
    decide +kernel
  · decide +kernel
  · rw [Artifact.render_eq, hclassify, hblock]
    simp only [Renderer.runBlock, Renderer.runNode, Renderer.runStep, Renderer.test,
      Renderer.evaluate, Evaluator.script_evaluate [] hcondition,
      Evaluator.script_evaluate [] hmissing]
    rfl

end Workspace

end Stencil
