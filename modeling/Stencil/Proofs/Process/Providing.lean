import Stencil.Proofs.Process.Ensuring

/-!
# What processes give

A process may keep an invariant of the state as long as the values that it works with are of some
kind, and then the values that it gives are of that kind too.  So the two are shown together.

## Main definitions

* `Stencil.Process.Provides` — a process that keeps an invariant and gives values of one kind only.

## Main results

* `Stencil.Process.Provides.bind`, `loop`, `forEach`, `within` — the rules for everything that
  processes are put together with.
* `Stencil.Process.Provides.iff_maintains` — where nothing is said of the value, this is to maintain
  the invariant.
-/

set_option relaxedAutoImplicit false
set_option autoImplicit false

namespace Stencil.Process

variable {ε σ α β : Type}

/-- **A process that keeps an invariant,** however it ends, and gives only values of a kind. -/
def Provides (P : σ → Prop) (R : α → Prop) (x : ExceptT ε (StateM σ) α) : Prop :=
  ∀ ⦃s⦄, P s → P (x s).2 ∧ ∀ ⦃a⦄, (x s).1 = .ok a → R a

namespace Provides

variable {P : σ → Prop} {R : α → Prop} {S : β → Prop}

/-- A value of the kind. -/
lemma pure {a : α} (ha : R a) : Provides P R (pure a : ExceptT ε (StateM σ) α) := by
  refine fun s hs => ⟨hs, fun b hb => ?_⟩
  cases hb
  exact ha

/-- A fault gives nothing. -/
lemma throw (e : ε) : Provides P R (throw e : ExceptT ε (StateM σ) α) :=
  fun _ hs => ⟨hs, fun _ h => by cases h⟩

/-- Steps one after the other. -/
lemma bind {x : ExceptT ε (StateM σ) α} {g : α → ExceptT ε (StateM σ) β} (hx : Provides P R x)
    (hg : ∀ a, R a → Provides P S (g a)) : Provides P S (x >>= g) := by
  intro s hs
  obtain ⟨ht, hR⟩ := hx hs
  rw [bind_apply]
  rcases hxs : x s with ⟨e | a, t⟩ <;> rw [hxs] at ht hR
  · exact ⟨ht, fun _ h => (by cases h)⟩
  · exact hg a (hR rfl) ht

/-- A value computed from a value. -/
lemma map {x : ExceptT ε (StateM σ) α} {f : α → β} (h : Provides P R x)
    (hf : ∀ a, R a → S (f a)) : Provides P S (f <$> x) := by
  rw [map_eq_pure_bind]
  exact h.bind fun a ha => pure (hf a ha)

/-- A state that is looked at. -/
lemma get_bind {g : σ → ExceptT ε (StateM σ) α} (hg : ∀ s, P s → Provides P R (g s)) :
    Provides P R (get >>= g) :=
  fun s hs => hg s hs hs

/-- A body between an entry and an exit, where the exit knows the state before the entry. -/
lemma within {x : ExceptT ε (StateM σ) α} (g : σ → σ) (h : σ → σ → σ) (hx : Provides P R x)
    (hg : ∀ ⦃s⦄, P s → P (g s)) (hh : ∀ ⦃s⦄, P s → ∀ ⦃t⦄, P t → P (h s t)) :
    Provides P R (fun s => ((x (g s)).1, h s (x (g s)).2)) :=
  fun _ hs => ⟨hh hs (hx (hg hs)).1, (hx (hg hs)).2⟩

/-- Where nothing is said of the value, this is to maintain the invariant. -/
lemma iff_maintains {x : ExceptT ε (StateM σ) α} :
    Provides P (fun _ => True) x ↔ Maintains P x :=
  ⟨fun h => .of_snd fun _ hs => (h hs).1, fun h _ hs => ⟨h.holds hs, fun _ _ => trivial⟩⟩

/-! ## Loops -/

variable {body : Process ε σ Unit}

/-- Loops while a condition holds. -/
lemma loop {condition : Process ε σ Bool} (hcondition : Provides P (fun _ => True) condition)
    (hbody : Provides P (fun _ => True) body) (fuel : Nat) :
    Provides P (fun _ => True) (Process.loop condition body fuel) :=
  iff_maintains.2 <|
    .loop (iff_maintains.1 hcondition) (iff_maintains.1 hbody) (fun _ hs => hs) fuel

/-- Loops over a list of values of the kind. -/
lemma forEach {body : α → Process ε σ Unit} (hbody : ∀ a, R a → Provides P (fun _ => True) (body a))
    {items : List α} (hitems : ∀ a ∈ items, R a) :
    Provides P (fun _ => True) (Process.forEach body items) := by
  induction items with
  | nil => exact pure trivial
  | cons a rest ih =>
    obtain ⟨ha, hrest⟩ := List.forall_mem_cons.1 hitems
    exact (hbody a ha).bind fun _ _ => ih hrest

end Provides

end Stencil.Process
