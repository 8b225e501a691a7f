import Stencil.Proofs.Process.Fuel
import Stencil.Script.Exec

/-!
# Fuel of scripts

Statements that come to an end do so in the same way with more fuel.

## Main results

* `Stencil.Script.refines_exec`, `refines_execList` — more fuel changes nothing for a statement that
  ends.
-/

set_option relaxedAutoImplicit false
set_option autoImplicit false

namespace Stencil.Script

open Process (Refines)

/-- A body in a frame of its own. -/
lemma refines_inFrame {f : Frame} {x y : Run Unit} (h : Refines x y) :
    Refines (Run.inFrame f x) (Run.inFrame f y) := by
  intro s
  rcases h (s.push f) with hspent | heq
  · left
    exact hspent
  · right
    simp only [Run.inFrame, heq]

/-- A body run for every value of a list. -/
lemma refines_forBinding {binding : String} {x y : Run Unit} (h : Refines x y)
    (values : List Value) : Refines (forBinding binding x values) (forBinding binding y values) :=
  .forEach (fun _ => refines_inFrame h) values

mutual

/-- **More fuel changes nothing for a statement that ends.**

**Proof sketch.** Induction on the statement.  Loops alone look at the fuel, and these turn as often
as they need to. -/
theorem refines_exec (functions : Functions) {m n : Nat} (hmn : m ≤ n) (stmt : Stmt) :
    Refines (exec functions m stmt) (exec functions n stmt) := by
  cases stmt with
  | empty =>
    rw [exec, exec]
    exact .refl _
  | expr e =>
    rw [exec, exec]
    exact .refl _
  | declare kind declarations =>
    rw [exec, exec]
    exact .refl _
  | block body =>
    rw [exec, exec]
    exact refines_inFrame (refines_execList functions hmn body)
  | branch condition yes no =>
    rw [exec, exec]
    refine Refines.bind (.refl _) fun holds => ?_
    cases holds with
    | true => exact refines_exec functions hmn yes
    | false => exact refines_exec functions hmn no
  | whileLoop condition body =>
    rw [exec, exec]
    exact .loop (.refl _) (refines_exec functions hmn body) hmn
  | forOf binding iterable body =>
    rw [exec, exec]
    exact .bind (.refl _) fun v => .bind (.refl _) fun items =>
      refines_forBinding (refines_exec functions hmn body) items
  | forIn binding owner body =>
    rw [exec, exec]
    exact .bind (.refl _) fun v => refines_forBinding (refines_exec functions hmn body) v.keys
  | forLoop start condition update body =>
    cases update with
    | none =>
      rw [exec, exec]
      refine refines_inFrame (.bind (refines_exec functions hmn start) fun _ => ?_)
      exact .loop (.refl _) (.bind (refines_exec functions hmn body) fun _ => .refl _) hmn
    | some e =>
      rw [exec, exec]
      refine refines_inFrame (.bind (refines_exec functions hmn start) fun _ => ?_)
      exact .loop (.refl _) (.bind (refines_exec functions hmn body) fun _ => .refl _) hmn

/-- More fuel changes nothing for statements that end. -/
theorem refines_execList (functions : Functions) {m n : Nat} (hmn : m ≤ n) (body : List Stmt) :
    Refines (execList functions m body) (execList functions n body) := by
  cases body with
  | nil => exact .refl _
  | cons stmt rest =>
    exact .bind (refines_exec functions hmn stmt) fun _ => refines_execList functions hmn rest

end

end Stencil.Script
