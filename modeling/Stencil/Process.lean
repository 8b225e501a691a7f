/-!
# Processes

What runs: a computation that changes a state step by step, and may stop early.

## Main definitions

* `Stencil.Halt` — why a process stops early.
* `Stencil.Process` — a process.
* `Stencil.Process.loop` — a body repeated while a condition holds.
* `Stencil.Process.forEach` — a body run for every element of a list.

## Design

A process that stops early leaves the state as it was then, so the state is kept beside the outcome.
Only loops while a condition holds can go on without end.  They alone spend fuel: each of them may
turn as often as the fuel says.
-/

set_option relaxedAutoImplicit false
set_option autoImplicit false

namespace Stencil

/-- **Why a process stops early:** something went wrong, or its fuel is spent. -/
inductive Halt (ε : Type) where
  /-- Something went wrong. -/
  | fault (e : ε)
  /-- The fuel is spent. -/
  | exhausted

/-- **A process:** the outcome, and the state after it, from the state before it. -/
abbrev Process (ε σ α : Type) := ExceptT (Halt ε) (StateM σ) α

namespace Process

variable {ε σ α : Type}

/-- **A body repeated while a condition holds.** -/
def loop (condition : Process ε σ Bool) (body : Process ε σ Unit) : Nat → Process ε σ Unit
  | 0 => throw .exhausted
  | fuel + 1 => do
    if ← condition then
      body
      loop condition body fuel

/-- **A body run for every element of a list.** -/
def forEach (body : α → Process ε σ Unit) : List α → Process ε σ Unit
  | [] => return ()
  | a :: rest => do
    body a
    forEach body rest

end Process

end Stencil
