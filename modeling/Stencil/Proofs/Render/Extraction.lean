import Mathlib.Data.List.Forall2
import Stencil.Proofs.Render.Record

/-!
# Blocks kept apart from the output

A capture sends the output to a block of its own until it ends.  It may begin in one include or turn
of a loop and end in another one; but nothing that is put out is lost or moved: the record of a
rendering tells the output and every block.

## Main definitions

* `Stencil.capturing` — whether a capture is open behind some steps.
* `Stencil.Capture` — a capture in a record, with the steps before it.
* `Stencil.Renderer.Yields` — the block that a capture comes to.
* `Stencil.Renderer.Told` — a rendering whose output and blocks are those that a record tells.

## Main results

* `Stencil.Renderer.told_of_followed` — what has been put out is what the record tells.
* `Stencil.Artifact.render_extracts` — captures begin and end in turn, the output and the blocks are
  what has been put out outside and inside of them, and rendering fails where they do not match.
-/

set_option relaxedAutoImplicit false
set_option autoImplicit false

namespace Stencil

open Script

/-! ## Captures in a record -/

/-- Steps that neither begin nor end a capture. -/
def Plain (visits : List Visit) : Prop := ∀ v ∈ visits, v.step.captures = false

/-- Whether a capture is open behind a step. -/
def Step.opens (s : Step) (active : Bool) : Bool :=
  match s with
  | .beginCapture _ => true
  | .endCapture => false
  | _ => active

/-- **Whether a capture is open behind some steps:** the last one that begins or ends a capture
begins one. -/
def capturing (visits : List Visit) : Bool :=
  visits.foldl (fun active v => v.step.opens active) false

/-- **A capture in a record,** with the steps between the one before and it. -/
structure Capture where
  /-- The steps before it. -/
  outside : List Visit
  /-- The step that begins it. -/
  opening : Visit
  /-- The steps in it. -/
  inside : List Visit
  /-- The step that ends it. -/
  closing : Visit

/-- The steps of a capture. -/
def Capture.visits (c : Capture) : List Visit := c.outside ++ c.opening :: c.inside ++ [c.closing]

namespace Renderer

/-- What steps put out. -/
def texts (n : Renderer) (visits : List Visit) : String := String.join (visits.map n.text)

/-- A step that begins a capture with the given parameters. -/
def Opens (n : Renderer) (v : Visit) (params : Value) : Prop :=
  ∃ expr, v.step = .beginCapture expr ∧ (n.evaluate expr v.before).1 = .ok params

/-- **The block that a capture comes to:** what is put out between its beginning and its end, with
the parameters that its beginning evaluates. -/
structure Yields (n : Renderer) (c : Capture) (block : Extract) : Prop where
  /-- No capture begins or ends before it. -/
  outside : Plain c.outside
  /-- It begins with its parameters. -/
  opening : n.Opens c.opening block.params
  /-- No capture begins or ends in it. -/
  inside : Plain c.inside
  /-- It ends. -/
  closing : c.closing.step = .endCapture
  /-- Its output. -/
  html : block.html = n.texts c.inside

/-- **A rendering whose output and blocks are those that a record tells.** -/
inductive Told (n : Renderer) : List Visit → Rendering → Prop
  /-- No capture is open. -/
  | outside {captures : List Capture} {rest : List Visit} {r : Rendering}
      (capture : r.capture = none) (blocks : List.Forall₂ n.Yields captures r.blocks)
      (plain : Plain rest)
      (output : r.output = n.texts (captures.flatMap Capture.outside ++ rest)) :
      n.Told (captures.flatMap Capture.visits ++ rest) r
  /-- A capture is open. -/
  | inside {captures : List Capture} {before within : List Visit} {v : Visit} {main : String}
      {params : Value} {r : Rendering} (capture : r.capture = some (main, params))
      (blocks : List.Forall₂ n.Yields captures r.blocks) (plain : Plain before)
      (opening : n.Opens v params) (plain' : Plain within)
      (main : main = n.texts (captures.flatMap Capture.outside ++ before))
      (output : r.output = n.texts within) :
      n.Told (captures.flatMap Capture.visits ++ (before ++ v :: within)) r

end Renderer

/-! ## What records tell -/

/-- One more step. -/
lemma Plain.concat {visits : List Visit} {v : Visit} (h : Plain visits)
    (hv : v.step.captures = false) : Plain (visits ++ [v]) := by
  intro w hw
  rcases List.mem_append.1 hw with hw | hw
  · exact h w hw
  · rw [List.mem_singleton.1 hw]
    exact hv

/-- Whether a capture is open behind one more step. -/
lemma capturing_concat (visits : List Visit) (v : Visit) :
    capturing (visits ++ [v]) = v.step.opens (capturing visits) := by
  rw [capturing, List.foldl_concat]
  rfl

namespace Renderer

variable {n : Renderer} {P : Step → Prop} {visits : List Visit} {v : Visit} {r q : Rendering}

/-- What one more step puts out. -/
lemma texts_concat (visits : List Visit) (v : Visit) :
    n.texts (visits ++ [v]) = n.texts visits ++ n.text v := by
  simp [texts, String.join_append, String.join_cons]

/-- Bindings and places do not matter. -/
lemma Told.of_same (h : n.Told visits r) (hsame : r.SameOutput q) : n.Told visits q := by
  obtain ⟨_, _, _, rfl⟩ := hsame
  cases h with
  | outside capture blocks plain output => exact .outside capture blocks plain output
  | inside capture blocks plain opening plain' main output =>
    exact .inside capture blocks plain opening plain' main output

/-- Outside of captures, a step adds its text to the output; inside, to the block. -/
lemma told_of_writes (h : n.Told visits v.before) (hv : v.step.captures = false) :
    n.Told (visits ++ [v]) { v.before with output := v.before.output ++ n.text v } := by
  cases h with
  | outside capture blocks plain output =>
    rw [List.append_assoc]
    refine .outside capture blocks (plain.concat hv) ?_
    rw [← List.append_assoc, texts_concat]
    exact congrArg (· ++ n.text v) output
  | inside capture blocks plain opening plain' main output =>
    rw [List.append_assoc, List.append_assoc]
    refine .inside capture blocks plain opening (plain'.concat hv) main ?_
    exact (congrArg (· ++ n.text v) output).trans (texts_concat _ v).symm

/-- Outside of captures, the output is set aside where a capture begins. -/
lemma told_of_begins {params : Value} (h : n.Told visits v.before)
    (hcapture : v.before.capture = none) (hv : n.Opens v params) :
    n.Told (visits ++ [v])
      { v.before with output := "", capture := some (v.before.output, params) } := by
  cases h with
  | outside _ blocks plain output =>
    rw [List.append_assoc]
    exact .inside rfl blocks plain hv (by simp [Plain]) output rfl
  | inside capture => simp [hcapture] at capture

/-- Inside a capture, the block ends and the output is taken back.

**Proof sketch.** The capture that is open becomes one more block: what was put out since it
began. -/
lemma told_of_ends {main : String} {params : Value} (h : n.Told visits v.before)
    (hcapture : v.before.capture = some (main, params)) (hv : v.step = .endCapture) :
    n.Told (visits ++ [v])
      { v.before with
        output := main, capture := none,
        blocks := v.before.blocks ++ [⟨v.before.output, params⟩] } := by
  cases h with
  | outside capture => simp [hcapture] at capture
  | @inside captures before within w main' params' _ capture blocks plain opening plain' hmain
      output =>
    obtain ⟨rfl, rfl⟩ : main = main' ∧ params = params' := by
      simpa [hcapture] using capture
    let c : Capture := ⟨before, w, within, v⟩
    have hyields : n.Yields c ⟨v.before.output, params⟩ := ⟨plain, opening, plain', hv, output⟩
    have hvisits : captures.flatMap Capture.visits ++ (before ++ w :: within) ++ [v] =
        (captures ++ [c]).flatMap Capture.visits ++ [] := by
      simp [Capture.visits, c]
    rw [hvisits]
    refine .outside rfl (List.rel_append blocks (.cons hyields .nil)) (by simp [Plain]) ?_
    simpa [c] using hmain

/-- With each step, the record tells what has been put out. -/
theorem told_of_effect (h : n.Told visits v.before) (heffect : n.Effect v q) :
    n.Told (visits ++ [v]) q := by
  cases heffect with
  | writes hv same => exact (told_of_writes h hv).of_same same
  | begins step outside evaluated same =>
    exact (told_of_begins h outside ⟨_, step, evaluated⟩).of_same same
  | ends step inside same => exact (told_of_ends h inside step).of_same same

/-- **What has been put out is what the record tells.** -/
theorem told_of_followed (h : n.Followed P visits r) : n.Told visits r := by
  induction h with
  | start output capture blocks =>
    show n.Told (([] : List Capture).flatMap Capture.visits ++ []) _
    exact .outside capture (blocks ▸ .nil) (by simp [Plain]) output
  | visit _ _ run ih => exact told_of_effect ih (effect_of_runStep run)
  | aside _ same ih => exact ih.of_same same

/-- A step that ends well opens or closes the capture that it is said to. -/
lemma opens_of_effect (h : n.Effect v q) :
    v.step.opens v.before.capture.isSome = q.capture.isSome := by
  cases h with
  | writes plain same =>
    obtain ⟨_, _, _, rfl⟩ := same
    cases hs : v.step <;> rw [hs] at plain
    case beginCapture | endCapture => cases plain
    all_goals rfl
  | begins step _ _ same =>
    obtain ⟨_, _, _, rfl⟩ := same
    rw [step]
    rfl
  | ends step _ same =>
    obtain ⟨_, _, _, rfl⟩ := same
    rw [step]
    rfl

/-- A capture is open in a rendering just if it is behind the steps of its record. -/
theorem capturing_of_followed (h : n.Followed P visits r) :
    capturing visits = r.capture.isSome := by
  induction h with
  | start _ capture _ => rw [capture]; rfl
  | visit _ _ run ih => rw [capturing_concat, ih, opens_of_effect (effect_of_runStep run)]
  | aside _ same ih =>
    obtain ⟨_, _, _, rfl⟩ := same
    exact ih

/-! ## Where captures do not match -/

/-- A step of a record is its last one or stands before it. -/
lemma eq_or_exists_of_concat {front before behind : List Visit} {w : Visit}
    (h : front ++ [w] = before ++ v :: behind) :
    (front = before ∧ w = v) ∨ ∃ rest, front = before ++ v :: rest := by
  rcases List.eq_nil_or_concat behind with rfl | ⟨rest, last, rfl⟩
  · obtain ⟨hfront, hlast⟩ := List.append_inj' h rfl
    exact .inl ⟨hfront, List.singleton_inj.1 hlast⟩
  · rw [List.concat_eq_append, ← List.cons_append, ← List.append_assoc] at h
    exact .inr ⟨rest, (List.append_inj' h rfl).1⟩

/-- A step in a record that leads to a rendering has ended well. -/
lemma Followed.of_append (h : n.Followed P visits r) {before behind : List Visit}
    (hv : visits = before ++ v :: behind) :
    n.Followed P before v.before ∧ ∃ q, n.runStep v.step v.before = (.ok (), q) := by
  induction h generalizing behind with
  | start => simp at hv
  | @visit visits w r earlier _ run ih =>
    obtain ⟨rfl, rfl⟩ | ⟨rest, hrest⟩ := eq_or_exists_of_concat hv
    · exact ⟨earlier, r, run⟩
    · exact ih hrest
  | aside _ _ ih => exact ih hv

/-- A step in a record of a run has ended well, or the run has failed with it. -/
lemma Leads.of_append {α : Type} {result : Except (Halt Failure) α} {q : Recording}
    (h : n.Leads P (result, q)) {before behind : List Visit}
    (hv : q.visits = before ++ v :: behind) :
    n.Followed P before v.before ∧
      ((∃ r, n.runStep v.step v.before = (.ok (), r)) ∨
        ∃ e, (n.runStep v.step v.before).1 = .error e ∧ result = .error e) := by
  have hwell {visits rest : List Visit} {r : Rendering} (h : n.Followed P visits r)
      (hv : visits = before ++ v :: rest) : n.Followed P before v.before ∧
        ((∃ r, n.runStep v.step v.before = (.ok (), r)) ∨
          ∃ e, (n.runStep v.step v.before).1 = .error e ∧ result = .error e) :=
    ⟨(h.of_append hv).1, .inl (h.of_append hv).2⟩
  cases result with
  | ok a => exact hwell h hv
  | error e =>
    obtain ⟨r, h⟩ | ⟨front, w, hvisits, hfront, -, hfails⟩ := h
    · exact hwell h hv
    · obtain ⟨rfl, rfl⟩ | ⟨rest, hrest⟩ := eq_or_exists_of_concat (hvisits.symm.trans hv)
      · exact ⟨hfront, .inr ⟨e, hfails, rfl⟩⟩
      · exact hwell hfront hrest

/-- A step that fails ends the run with its failure. -/
lemma Leads.eq_error {α : Type} {result : Except (Halt Failure) α} {q : Recording}
    (h : n.Leads P (result, q)) {before behind : List Visit}
    (hv : q.visits = before ++ v :: behind) {f : Failure} {r : Rendering}
    (hfails : n.runStep v.step v.before = (.error (.fault f), r)) : result = .error (.fault f) := by
  obtain ⟨-, ⟨_, hok⟩ | ⟨e, he, rfl⟩⟩ := h.of_append hv
  · rw [hfails] at hok
    cases hok
  · rw [hfails] at he
    exact congrArg Except.error (Except.error.inj he).symm

/-- A capture that begins inside another one ends the run. -/
lemma Leads.eq_nestedCapture {α : Type} {result : Except (Halt Failure) α} {q : Recording}
    (h : n.Leads P (result, q)) {before behind : List Visit}
    (hv : q.visits = before ++ v :: behind) (hbefore : capturing before = true) {expr : String}
    (hstep : v.step = .beginCapture expr) :
    result = .error (.fault (n.failure v.before .nestedCapture)) := by
  have hcapture := (capturing_of_followed (h.of_append hv).1).symm.trans hbefore
  exact h.eq_error hv (hstep ▸ runStep_beginCapture_of_some hcapture)

/-- The end of a capture that has not begun ends the run. -/
lemma Leads.eq_strayEndCapture {α : Type} {result : Except (Halt Failure) α} {q : Recording}
    (h : n.Leads P (result, q)) {before behind : List Visit}
    (hv : q.visits = before ++ v :: behind) (hbefore : capturing before = false)
    (hstep : v.step = .endCapture) :
    result = .error (.fault (n.failure v.before .strayEndCapture)) := by
  have hcapture := (capturing_of_followed (h.of_append hv).1).symm.trans hbefore
  rw [Option.isSome_eq_false_iff, Option.isNone_iff_eq_none] at hcapture
  exact h.eq_error hv (hstep ▸ runStep_endCapture_of_none hcapture)

/-- What a rendering outside of captures has put out. -/
lemma Told.of_none (h : n.Told visits r) (hcapture : r.capture = none) :
    ∃ captures rest, visits = captures.flatMap Capture.visits ++ rest ∧ Plain rest ∧
      r.output = n.texts (captures.flatMap Capture.outside ++ rest) ∧
      List.Forall₂ n.Yields captures r.blocks := by
  cases h with
  | outside _ blocks plain output => exact ⟨_, _, rfl, plain, output, blocks⟩
  | inside capture => simp [hcapture] at capture

end Renderer

/-! ## Artifacts -/

namespace Artifact

/-- **Extraction conserves the output.**  The recorded run of a template is the run that renders it,
and of its record the following holds.

* If rendering succeeds, the record is made of captures and of steps outside of them: captures begin
  and end in turn.  The output is what has been put out outside of captures, in order, and there
  is a block for each capture, with what has been put out in it and with the parameters that its
  beginning has evaluated.
* If a capture begins while another one is open, or ends while none is, rendering fails there.
* If the run ends while a capture is open, rendering fails.

**Proof sketch.** Output and blocks are told by the record at every step, and whether a capture is
open is told by its last step that begins or ends one.  A step that fails is the last one. -/
theorem render_extracts (a : Artifact) (e : Evaluator) (fuel : Nat) (data : Value) :
    let n := a.renderer e fuel
    let run := a.recorded e fuel data
    a.render e fuel data = rendered (run.map id Recording.now) ∧
      (∀ result, a.render e fuel data = .ok result →
        ∃ captures rest, run.2.visits = captures.flatMap Capture.visits ++ rest ∧ Plain rest ∧
          result.output = n.texts (captures.flatMap Capture.outside ++ rest) ∧
          List.Forall₂ n.Yields captures result.blocks) ∧
      (∀ before v behind expr, run.2.visits = before ++ v :: behind → capturing before = true →
        v.step = .beginCapture expr →
          a.render e fuel data = .error (.fault (n.failure v.before .nestedCapture))) ∧
      (∀ before v behind, run.2.visits = before ++ v :: behind → capturing before = false →
        v.step = .endCapture →
          a.render e fuel data = .error (.fault (n.failure v.before .strayEndCapture))) ∧
      (run.1 = .ok () → capturing run.2.visits = true →
        a.render e fuel data = .error (.fault ⟨.unbalanced .openCapture, none⟩)) := by
  intro n run
  obtain ⟨hrender, hleads⟩ := a.recorded_spec e fuel data
  have hfails {h : Halt Failure} (hrun : run.1 = .error h) : a.render e fuel data = .error h := by
    rw [hrender, show run.map id Recording.now = (.error h, run.2.now) from Prod.ext hrun rfl]
    rfl
  refine ⟨hrender, fun result h => ?_, fun before v behind expr hv hbefore hstep => ?_,
    fun before v behind hv hbefore hstep => ?_, fun hrun hopen => ?_⟩
  · obtain ⟨hrun, hcapture, rfl⟩ := rendered_eq_ok (hrender.symm.trans h)
    exact (Renderer.told_of_followed (followed_recorded hrun)).of_none hcapture
  · exact hfails (Renderer.Leads.eq_nestedCapture hleads hv hbefore hstep)
  · exact hfails (Renderer.Leads.eq_strayEndCapture hleads hv hbefore hstep)
  · have hcapture := (Renderer.capturing_of_followed (followed_recorded hrun)).symm.trans hopen
    rw [hrender, show run.map id Recording.now = (.ok (), run.2.now) from Prod.ext hrun rfl,
      rendered, if_pos hcapture]

end Artifact

end Stencil
