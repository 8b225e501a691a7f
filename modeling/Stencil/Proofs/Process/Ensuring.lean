import Mathlib.Tactic.Lemma
import Stencil.Proofs.Process.Simulation

/-!
# What processes ensure

A process is run from states of which something is known.  What is known afterwards may depend on
whether it came to its end.

## Main definitions

* `Stencil.Process.Ensures` — a process with what holds before it, after a good end and after a bad
  one.
* `Stencil.Process.Maintains` — a process that keeps true what held before it.

## Main results

* `Stencil.Process.Ensures.bind`, `loop`, `forEach`, `within` — the rules for everything that
  processes are put together with.
* `Stencil.Process.Keeps.maintains` — a process that keeps a relation of a state to itself maintains
  what the relation says of the state.

## Design

Nothing is said of the value that a process gives: what holds afterwards holds whatever it is.
-/

set_option relaxedAutoImplicit false
set_option autoImplicit false

namespace Stencil.Process

variable {ε σ α β : Type}

/-- **A process that ensures something:** from a state where `P` holds, it leaves one where `Q`
holds if it ends well, and one where `E` holds if it does not. -/
def Ensures (P Q E : σ → Prop) (x : ExceptT ε (StateM σ) α) : Prop :=
  ∀ ⦃s⦄, P s → (∀ ⦃a⦄, (x s).1 = .ok a → Q (x s).2) ∧ (∀ ⦃e⦄, (x s).1 = .error e → E (x s).2)

/-- **A process that maintains something,** however it ends. -/
abbrev Maintains (P : σ → Prop) (x : ExceptT ε (StateM σ) α) : Prop := Ensures P P P x

/-- What holds of every state that a process leaves is maintained. -/
lemma Maintains.of_snd {P : σ → Prop} {x : ExceptT ε (StateM σ) α}
    (h : ∀ ⦃s⦄, P s → P (x s).2) : Maintains P x :=
  fun _ hs => ⟨fun _ _ => h hs, fun _ _ => h hs⟩

namespace Ensures

variable {P Q S E : σ → Prop}

/-- What holds after a good end and after a bad one holds after all. -/
lemma holds {x : ExceptT ε (StateM σ) α} (h : Ensures P Q Q x) {s : σ} (hs : P s) : Q (x s).2 := by
  obtain ⟨hok, herror⟩ := h hs
  rcases hr : (x s).1 with e | a
  · exact herror hr
  · exact hok hr

/-- A value leaves the state. -/
lemma pure (a : α) : Ensures P P E (pure a : ExceptT ε (StateM σ) α) :=
  fun _ hs => ⟨fun _ _ => hs, fun _ h => by cases h⟩

/-- A fault leaves the state. -/
lemma throw (e : ε) (hE : ∀ ⦃s⦄, P s → E s) :
    Ensures P Q E (throw e : ExceptT ε (StateM σ) α) :=
  fun _ hs => ⟨fun _ h => (by cases h), fun _ _ => hE hs⟩

/-- Less may be known before, and more allowed afterwards. -/
lemma imp {P' Q' E' : σ → Prop} {x : ExceptT ε (StateM σ) α} (h : Ensures P Q E x)
    (hP : ∀ ⦃s⦄, P' s → P s) (hQ : ∀ ⦃s⦄, Q s → Q' s) (hE : ∀ ⦃s⦄, E s → E' s) :
    Ensures P' Q' E' x :=
  fun _ hs => ⟨fun _ ha => hQ ((h (hP hs)).1 ha), fun _ he => hE ((h (hP hs)).2 he)⟩

/-- **Steps one after the other.** -/
lemma bind {x : ExceptT ε (StateM σ) α} {g : α → ExceptT ε (StateM σ) β}
    (hx : Ensures P Q E x) (hg : ∀ a, Ensures Q S E (g a)) : Ensures P S E (x >>= g) := by
  intro s hs
  obtain ⟨hok, herror⟩ := hx hs
  rw [bind_apply]
  rcases hxs : x s with ⟨e | a, t⟩ <;> rw [hxs] at hok herror
  · exact ⟨fun _ h => (by cases h), fun _ _ => herror rfl⟩
  · exact hg a (hok rfl)

/-- More may be allowed after a good end. -/
lemma imp_ok {Q' : σ → Prop} {x : ExceptT ε (StateM σ) α} (h : Ensures P Q E x)
    (hQ : ∀ ⦃s⦄, Q s → Q' s) : Ensures P Q' E x :=
  h.imp (fun _ hs => hs) hQ fun _ hs => hs

/-- More may be allowed after a bad end. -/
lemma imp_error {E' : σ → Prop} {x : ExceptT ε (StateM σ) α} (h : Ensures P Q E x)
    (hE : ∀ ⦃s⦄, E s → E' s) : Ensures P Q E' x :=
  h.imp (fun _ hs => hs) (fun _ hs => hs) hE

/-- A state that is looked at, and is still the state after that. -/
lemma get_bind_eq {g : σ → ExceptT ε (StateM σ) α} (hg : ∀ s, P s → Ensures (· = s) Q E (g s)) :
    Ensures P Q E (get >>= g) :=
  fun s hs => hg s hs rfl

/-- A state that is looked at. -/
lemma get_bind {g : σ → ExceptT ε (StateM σ) α} (hg : ∀ s, Ensures P Q E (g s)) :
    Ensures P Q E (get >>= g) :=
  fun s hs => hg s hs

/-- **A body between an entry and an exit,** where the exit knows the state before the entry. -/
lemma within {P' Q' E' : σ → Prop} {x : ExceptT ε (StateM σ) α} (g : σ → σ) (h : σ → σ → σ)
    (hx : Ensures P' Q' E' x) (hg : ∀ ⦃s⦄, P s → P' (g s))
    (hQ : ∀ ⦃s⦄, P s → ∀ ⦃t⦄, Q' t → Q (h s t)) (hE : ∀ ⦃s⦄, P s → ∀ ⦃t⦄, E' t → E (h s t)) :
    Ensures P Q E (fun s => ((x (g s)).1, h s (x (g s)).2)) :=
  fun _ hs => ⟨fun _ ha => hQ hs ((hx (hg hs)).1 ha), fun _ he => hE hs ((hx (hg hs)).2 he)⟩

end Ensures

/-- **A process that keeps a relation of a state to itself** maintains what the relation says of the
state. -/
lemma Keeps.maintains {P : σ → Prop} {x : ExceptT ε (StateM σ) α}
    (h : Keeps (fun s t => s = t ∧ P s) x) : Maintains P x :=
  .of_snd fun _ hs => (h ⟨rfl, hs⟩).2.2

/-! ## Loops -/

namespace Ensures

variable {P E : σ → Prop}

/-- **Loops while a condition holds.**

**Proof sketch.** Induction on the fuel.  What is known before the condition is known again after
the body, and also when the fuel is spent. -/
lemma loop {condition : Process ε σ Bool} {body : Process ε σ Unit}
    (hc : Ensures P P E condition) (hb : Ensures P P E body) (hE : ∀ ⦃s⦄, P s → E s) (fuel : Nat) :
    Ensures P P E (Process.loop condition body fuel) := by
  induction fuel with
  | zero => exact throw _ hE
  | succ fuel ih =>
    refine bind hc fun holds => ?_
    cases holds with
    | false => exact pure ()
    | true => exact bind hb fun _ => ih

/-- **Loops over a list.** -/
lemma forEach {body : α → Process ε σ Unit} (hb : ∀ a, Ensures P P E (body a)) (items : List α) :
    Ensures P P E (Process.forEach body items) := by
  induction items with
  | nil => exact pure ()
  | cons a rest ih => exact bind (hb a) fun _ => ih

end Ensures

end Stencil.Process
