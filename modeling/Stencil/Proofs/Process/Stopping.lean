import Mathlib.Tactic.Lemma
import Stencil.Proofs.Process.Simulation

/-!
# Where processes stop

A process that stops early leaves the state as it was then.  What is known of that state may depend
on the reason.

## Main definitions

* `Stencil.Process.StopsIn` — a process that stops early for a given reason only in some states.

## Main results

* `Stencil.Process.StopsIn.bind`, `bind_of_ok`, `loop`, `forEach` — the rules for what processes are
  put together with.

## Design

Nothing is said of the state that a process is run from, and nothing of other reasons.
-/

set_option relaxedAutoImplicit false
set_option autoImplicit false

namespace Stencil.Process

variable {ε σ α β : Type}

/-- **A process that stops early for a given reason only in states with a property,** from whatever
state it is run. -/
def StopsIn (e : ε) (Q : σ → Prop) (x : ExceptT ε (StateM σ) α) : Prop :=
  ∀ ⦃s t⦄, x s = (.error e, t) → Q t

namespace StopsIn

variable {e : ε} {Q : σ → Prop}

/-- A value does not stop. -/
lemma pure (a : α) : StopsIn e Q (pure a : ExceptT ε (StateM σ) α) := nofun

/-- Another fault does not stop for this one. -/
lemma throw {e' : ε} (h : e' ≠ e) : StopsIn e Q (throw e' : ExceptT ε (StateM σ) α) :=
  fun _ _ heq => absurd (Except.error.inj (congrArg Prod.fst heq)) h

/-- **Steps one after the other,** where what follows has to be looked at only for the values that
the first step gives, in the states that it leaves. -/
lemma bind_of_ok {x : ExceptT ε (StateM σ) α} {g : α → ExceptT ε (StateM σ) β} (hx : StopsIn e Q x)
    (hg : ∀ ⦃s a t u⦄, x s = (.ok a, t) → g a t = (.error e, u) → Q u) : StopsIn e Q (x >>= g) := by
  intro s u h
  rw [bind_apply] at h
  rcases hs : x s with ⟨e' | a, t⟩ <;> rw [hs] at h
  · cases h
    exact hx hs
  · exact hg hs h

/-- **Steps one after the other.** -/
lemma bind {x : ExceptT ε (StateM σ) α} {g : α → ExceptT ε (StateM σ) β} (hx : StopsIn e Q x)
    (hg : ∀ a, StopsIn e Q (g a)) : StopsIn e Q (x >>= g) :=
  hx.bind_of_ok fun _ a _ _ _ h => hg a h

/-- A state that is looked at. -/
lemma get_bind {g : σ → ExceptT ε (StateM σ) α} (hg : ∀ s, StopsIn e Q (g s)) :
    StopsIn e Q (get >>= g) :=
  fun s _ h => hg s h

/-! ## Loops -/

/-- **Loops while a condition holds** stop where the condition and the body stop. -/
lemma loop {fault : ε} {condition : Process ε σ Bool} {body : Process ε σ Unit}
    (hc : StopsIn (.fault fault) Q condition) (hb : StopsIn (.fault fault) Q body) (fuel : Nat) :
    StopsIn (.fault fault) Q (Process.loop condition body fuel) := by
  induction fuel with
  | zero => exact throw nofun
  | succ fuel ih =>
    refine bind hc fun holds => ?_
    cases holds with
    | false => exact pure ()
    | true => exact bind hb fun _ => ih

/-- **Loops over a list** stop where their bodies stop. -/
lemma forEach {reason : Halt ε} {body : α → Process ε σ Unit}
    (hb : ∀ a, StopsIn reason Q (body a)) (items : List α) :
    StopsIn reason Q (Process.forEach body items) := by
  induction items with
  | nil => exact pure ()
  | cons a rest ih => exact bind (hb a) fun _ => ih

end StopsIn

end Stencil.Process
