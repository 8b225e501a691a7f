import Mathlib.Tactic.Lemma
import Stencil.Process

/-!
# Simulation between processes

Two processes, from states that are related, may end alike: with the same outcome, up to how faults
are named, and in states that are related again.  That they do is shown piece by piece, along the
way in which a process is put together.

## Main definitions

* `Stencil.Process.Simulates` — a process that does what another does.
* `Stencil.Process.Keeps` — a process that cannot tell related states apart.

## Main results

* `Stencil.Process.Simulates.bind`, `loop`, `forEach` — simulation goes through everything that
  processes are put together with.
-/

set_option relaxedAutoImplicit false
set_option autoImplicit false

namespace Stencil.Process

variable {ε ε' σ σ' α β : Type}

/-! ## Sequencing -/

/-- A step and what follows it, from a state. -/
lemma bind_apply (x : ExceptT ε (StateM σ) α) (g : α → ExceptT ε (StateM σ) β) (s : σ) :
    (x >>= g) s = match x s with
      | (.ok a, t) => g a t
      | (.error e, t) => (.error e, t) := by
  show (match x s with | (r, t) => ExceptT.bindCont g r t) = _
  rcases x s with ⟨_ | _, t⟩ <;> rfl

/-- What follows a step that ends well. -/
lemma bind_apply_ok {x : ExceptT ε (StateM σ) α} {g : α → ExceptT ε (StateM σ) β} {s t : σ} {a : α}
    (h : x s = (.ok a, t)) : (x >>= g) s = g a t := by
  rw [bind_apply, h]

/-- A step and what follows it end well if both do. -/
lemma bind_eq_ok_iff {x : ExceptT ε (StateM σ) α} {g : α → ExceptT ε (StateM σ) β} {s t : σ}
    {b : β} : (x >>= g) s = (.ok b, t) ↔ ∃ a u, x s = (.ok a, u) ∧ g a u = (.ok b, t) := by
  rw [bind_apply]
  rcases x s with ⟨e | a, u⟩
  · exact ⟨nofun, fun ⟨_, _, h, _⟩ => nomatch h⟩
  · refine ⟨fun h => ⟨a, u, rfl, h⟩, ?_⟩
    rintro ⟨_, _, h, hg⟩
    cases h
    exact hg

/-! ## Simulation -/

/-- **A process that does what another does:** from related states both end alike, up to the names
of faults, and the states are related again. -/
def Simulates (f : ε → ε') (R : σ → σ' → Prop) (x : ExceptT ε (StateM σ) α)
    (y : ExceptT ε' (StateM σ') α) : Prop :=
  ∀ ⦃s t⦄, R s t → (x s).1.mapError f = (y t).1 ∧ R (x s).2 (y t).2

namespace Simulates

variable {f : ε → ε'} {R : σ → σ' → Prop}

/-- A value is the same value. -/
lemma pure (a : α) :
    Simulates f R (pure a : ExceptT ε (StateM σ) α) (pure a : ExceptT ε' (StateM σ') α) :=
  fun _ _ h => ⟨rfl, h⟩

/-- A fault is the same fault, by its other name. -/
lemma throw (e : ε) : Simulates f R (throw e : ExceptT ε (StateM σ) α)
    (throw (f e) : ExceptT ε' (StateM σ') α) :=
  fun _ _ h => ⟨rfl, h⟩

/-- Steps one after the other, where what follows has to be looked at only for the values that
the first step gives.

**Proof sketch.** The first steps end alike: either both fail, and nothing follows, or both give the
same value in related states, from which what follows ends alike. -/
lemma bind_of_ok {x : ExceptT ε (StateM σ) α} {y : ExceptT ε' (StateM σ') α}
    {g : α → ExceptT ε (StateM σ) β} {h : α → ExceptT ε' (StateM σ') β}
    (hx : Simulates f R x y)
    (hg : ∀ ⦃a s⦄, (x s).1 = .ok a → Simulates f R (g a) (h a)) :
    Simulates f R (x >>= g) (y >>= h) := by
  intro s t hst
  obtain ⟨hr, ht⟩ := hx hst
  rw [bind_apply, bind_apply]
  rcases hxs : x s with ⟨e | a, s'⟩ <;> rcases hyt : y t with ⟨e' | a', t'⟩ <;>
    rw [hxs, hyt] at hr <;> rw [hxs, hyt] at ht
  · exact ⟨congrArg Except.error (Except.error.inj hr), ht⟩
  · cases hr
  · cases hr
  · obtain rfl : a = a' := Except.ok.inj hr
    exact hg (congrArg Prod.fst hxs) ht

/-- **Steps one after the other.** -/
lemma bind {x : ExceptT ε (StateM σ) α} {y : ExceptT ε' (StateM σ') α}
    {g : α → ExceptT ε (StateM σ) β} {h : α → ExceptT ε' (StateM σ') β}
    (hx : Simulates f R x y) (hg : ∀ a, Simulates f R (g a) (h a)) :
    Simulates f R (x >>= g) (y >>= h) :=
  bind_of_ok hx fun a _ _ => hg a

/-- A value computed from the same value. -/
lemma map {x : ExceptT ε (StateM σ) α} {y : ExceptT ε' (StateM σ') α} (g : α → β)
    (hx : Simulates f R x y) : Simulates f R (g <$> x) (g <$> y) := by
  rw [map_eq_pure_bind, map_eq_pure_bind]
  exact bind hx fun a => pure (g a)

/-- What is put between two steps, and leaves related states related, changes nothing. -/
lemma before {x : ExceptT ε (StateM σ) Unit} {y : ExceptT ε (StateM σ) α}
    {z : ExceptT ε' (StateM σ') α} (hx : ∀ s, (x s).1 = .ok ())
    (hR : ∀ ⦃s t⦄, R s t → R (x s).2 t) (hy : Simulates f R y z) :
    Simulates f R (do x; y) z := by
  intro s t hst
  rw [bind_apply_ok (Prod.ext (hx s) rfl)]
  exact hy (hR hst)

/-- A body between an entry and an exit, where the exit knows the state before the entry.  The
body may keep another relation than holds outside. -/
lemma within {S : σ → σ' → Prop} {x : ExceptT ε (StateM σ) α} {y : ExceptT ε' (StateM σ') α}
    (g : σ → σ) (g' : σ' → σ') (h : σ → σ → σ) (h' : σ' → σ' → σ') (hx : Simulates f S x y)
    (hg : ∀ ⦃s t⦄, R s t → S (g s) (g' t))
    (hh : ∀ ⦃s t⦄, R s t → ∀ ⦃s₁ t₁⦄, S s₁ t₁ → R (h s s₁) (h' t t₁)) :
    Simulates f R (fun s => ((x (g s)).1, h s (x (g s)).2))
      (fun t => ((y (g' t)).1, h' t (y (g' t)).2)) := by
  intro s t hst
  obtain ⟨hr, ht⟩ := hx (hg hst)
  exact ⟨hr, hh hst ht⟩

end Simulates

/-- **A process that cannot tell related states apart.** -/
abbrev Keeps (R : σ → σ → Prop) (x : ExceptT ε (StateM σ) α) : Prop := Simulates id R x x

/-- Faults that keep their names stay what they are. -/
lemma mapError_id (r : Except ε α) : r.mapError id = r := by
  cases r <;> rfl

/-- A process keeps a relation if it ends alike from related states. -/
lemma Keeps.of_forall {R : σ → σ → Prop} {x : ExceptT ε (StateM σ) α}
    (h : ∀ ⦃s t⦄, R s t → (x s).1 = (x t).1 ∧ R (x s).2 (x t).2) : Keeps R x := by
  intro s t hst
  rw [mapError_id]
  exact h hst

/-- From related states, a process that keeps the relation has the same outcome. -/
lemma Keeps.outcome_eq {R : σ → σ → Prop} {x : ExceptT ε (StateM σ) α} (h : Keeps R x) {s t : σ}
    (hst : R s t) : (x s).1 = (x t).1 := by
  have hr := (h hst).1
  rwa [mapError_id] at hr

/-- A value that is read off the state, and looks the same in related states. -/
lemma Keeps.get_bind {R : σ → σ → Prop} {g : σ → ExceptT ε (StateM σ) α}
    (hg : ∀ ⦃s t⦄, R s t → g s = g t) (hk : ∀ s, Keeps R (g s)) : Keeps R (get >>= g) := by
  intro s t hst
  show ((g s s).1.mapError id = (g t t).1) ∧ R (g s s).2 (g t t).2
  rw [← hg hst]
  exact hk s hst

/-! ## Loops -/

/-- The name of a reason to stop, when faults go by other names. -/
def renameHalt (f : ε → ε') : Halt ε → Halt ε'
  | .fault e => .fault (f e)
  | .exhausted => .exhausted

namespace Simulates

variable {f : Halt ε → Halt ε'} {R : σ → σ' → Prop}

/-- **Loops while a condition holds.**

**Proof sketch.** Induction on the fuel, which both spend alike. -/
lemma loop (hf : f .exhausted = .exhausted) {condition : Process ε σ Bool}
    {condition' : Process ε' σ' Bool} {body : Process ε σ Unit} {body' : Process ε' σ' Unit}
    (hc : Simulates f R condition condition') (hb : Simulates f R body body') (fuel : Nat) :
    Simulates f R (Process.loop condition body fuel) (Process.loop condition' body' fuel) := by
  induction fuel with
  | zero =>
    intro s t hst
    exact ⟨congrArg Except.error hf, hst⟩
  | succ fuel ih =>
    refine bind hc fun holds => ?_
    cases holds with
    | false => exact pure ()
    | true => exact bind hb fun _ => ih

/-- **Loops over a list.** -/
lemma forEach {body : α → Process ε σ Unit} {body' : α → Process ε' σ' Unit}
    (hb : ∀ a, Simulates f R (body a) (body' a)) (items : List α) :
    Simulates f R (Process.forEach body items) (Process.forEach body' items) := by
  induction items with
  | nil => exact pure ()
  | cons a rest ih => exact bind (hb a) fun _ => ih

end Simulates

end Stencil.Process
