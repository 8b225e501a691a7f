import Stencil.Proofs.Process.Simulation

/-!
# Fuel

How much fuel a process is given decides only whether it comes to an end.  Once it does, more fuel
changes nothing.

## Main definitions

* `Stencil.Process.Refines` — a process that does what another does, wherever that one ends.
* `Stencil.Process.Finishes` — a process that comes to an end if it is given fuel enough.

## Main results

* `Stencil.Process.Refines.bind`, `loop`, `forEach` — refinement goes through everything that
  processes are put together with.
* `Stencil.Process.Finishes.unique` — there is one end at most.
-/

set_option relaxedAutoImplicit false
set_option autoImplicit false

namespace Stencil.Process

variable {ε σ α β : Type}

/-! ## Refinement -/

/-- **A process that does what another does,** wherever that one does not run out of fuel. -/
def Refines (x y : Process ε σ α) : Prop :=
  ∀ s, (x s).1 = .error .exhausted ∨ y s = x s

namespace Refines

/-- A process does what it does. -/
lemma refl (x : Process ε σ α) : Refines x x := fun _ => .inr rfl

/-- **Steps one after the other.** -/
lemma bind {x y : Process ε σ α} {g h : α → Process ε σ β} (hx : Refines x y)
    (hg : ∀ a, Refines (g a) (h a)) : Refines (x >>= g) (y >>= h) := by
  intro s
  rw [bind_apply, bind_apply]
  rcases hx s with hout | heq
  · left
    rcases hxs : x s with ⟨e | a, t⟩ <;> rw [hxs] at hout <;> cases hout
    rfl
  · rw [heq]
    rcases x s with ⟨e | a, t⟩
    · exact .inr rfl
    · exact hg a t

/-- **Loops,** the second of which may turn more often.

**Proof sketch.** Induction on the fuel of the first loop.  If that one has some left, then so has
the second. -/
lemma loop {condition condition' : Process ε σ Bool} {body body' : Process ε σ Unit}
    (hc : Refines condition condition') (hb : Refines body body') {m n : Nat} (hmn : m ≤ n) :
    Refines (Process.loop condition body m) (Process.loop condition' body' n) := by
  induction m generalizing n with
  | zero => exact fun s => .inl rfl
  | succ m ih =>
    obtain ⟨n, rfl⟩ : ∃ k, n = k + 1 := ⟨n - 1, by omega⟩
    refine bind hc fun holds => ?_
    cases holds with
    | false => exact refl _
    | true => exact bind hb fun _ => ih (by omega)

/-- **Loops over a list.** -/
lemma forEach {body body' : α → Process ε σ Unit} (hb : ∀ a, Refines (body a) (body' a))
    (items : List α) : Refines (Process.forEach body items) (Process.forEach body' items) := by
  induction items with
  | nil => exact refl _
  | cons a rest ih => exact bind (hb a) fun _ => ih

end Refines

/-! ## Ends -/

/-- **A process that comes to an end** if it is given fuel enough: well or with a fault, and in some
state. -/
def Finishes (x : Nat → Process ε σ α) (s : σ) (result : Except ε α) (t : σ) : Prop :=
  ∃ fuel, x fuel s = (result.mapError .fault, t)

/-- **A process has one end at most,** if more fuel does not change what it does. -/
theorem Finishes.unique {x : Nat → Process ε σ α}
    (hx : ∀ ⦃m n⦄, m ≤ n → Refines (x m) (x n)) {s t t' : σ} {result result' : Except ε α}
    (h : Finishes x s result t) (h' : Finishes x s result' t') : result = result' ∧ t = t' := by
  have hout : ∀ r : Except ε α, r.mapError Halt.fault ≠ .error .exhausted := by
    rintro (e | a) hr <;> cases hr
  obtain ⟨m, hm⟩ := h
  obtain ⟨n, hn⟩ := h'
  have hends : ∀ {k l : Nat} {r : Except ε α} {u : σ}, k ≤ l →
      x k s = (r.mapError .fault, u) → x l s = (r.mapError .fault, u) := by
    intro k l r u hkl hk
    rcases hx hkl s with hspent | heq
    · rw [hk] at hspent
      exact absurd hspent (hout r)
    · rw [heq, hk]
  -- Both runs are the run with the larger of the two amounts.
  have heq : (result.mapError Halt.fault, t) = (result'.mapError Halt.fault, t') := by
    rw [← hends (Nat.le_max_left m n) hm, ← hends (Nat.le_max_right m n) hn]
  obtain ⟨hres, rfl⟩ := Prod.mk.inj heq
  refine ⟨?_, rfl⟩
  rcases result with e | a <;> rcases result' with e' | a' <;> cases hres <;> rfl

end Stencil.Process
