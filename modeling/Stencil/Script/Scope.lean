import Stencil.Data.Value
import Stencil.Process
import Stencil.Script.Fault

/-!
# Scopes

The bindings that code sees: a stack of frames above the global bindings.

## Main definitions

* `Stencil.Script.Frame`, `Stencil.Script.Scope` — one frame, and all bindings.
* `Stencil.Script.Scope.get?`, `replace`, `assign`, `declare`, `declareVar` — reading and binding.
* `Stencil.Script.Eval` — a computation that reads and changes the bindings and may fail.
* `Stencil.Script.Run` — a process on the bindings.

## Design

Frames are held innermost first.  A name is looked for frame by frame, not beyond an isolated one,
and then among the globals.  A computation that fails leaves the scope as it was at the failure, so
`Eval` keeps the scope beside the outcome.
-/

set_option relaxedAutoImplicit false
set_option autoImplicit false

namespace Stencil.Script

/-- **A frame of bindings.** -/
structure Frame where
  /-- The bindings. -/
  vars : Fields Value := []
  /-- Whether `var` declarations are bound here. -/
  isFunction : Bool := false
  /-- Whether the frames around this one are hidden. -/
  isolated : Bool := false

/-- **All bindings.** -/
structure Scope where
  /-- The bindings that are seen from everywhere. -/
  globals : Fields Value := []
  /-- The frames, innermost first. -/
  frames : List Frame := []

namespace Scope

/-- The number of frames. -/
def depth (s : Scope) : Nat := s.frames.length

/-- A scope with one more frame. -/
def push (s : Scope) (f : Frame) : Scope := { s with frames := f :: s.frames }

/-- A scope without its innermost frame. -/
def pop (s : Scope) : Scope := { s with frames := s.frames.tail }

/-- A scope cut down to a depth. -/
def truncate (s : Scope) (depth : Nat) : Scope :=
  { s with frames := s.frames.drop (s.frames.length - depth) }

/-! ## Reading -/

/-- What a name is bound to in the frames that are seen. -/
def lookup? (name : String) : List Frame → Option Value
  | [] => none
  | f :: rest =>
    match Fields.get? name f.vars with
    | some v => some v
    | none => if f.isolated then none else lookup? name rest

/-- **What a name is bound to.** -/
def get? (s : Scope) (name : String) : Option Value :=
  (lookup? name s.frames).orElse fun _ => Fields.get? name s.globals

/-- Whether a name is bound. -/
def contains (s : Scope) (name : String) : Bool := (s.get? name).isSome

/-! ## Binding -/

/-- Frames with the binding that is seen replaced, if one is seen. -/
def replaceIn? (name : String) (value : Value) : List Frame → Option (List Frame)
  | [] => none
  | f :: rest =>
    if Fields.contains name f.vars then
      some ({ f with vars := Fields.insert name value f.vars } :: rest)
    else if f.isolated then none
    else (replaceIn? name value rest).map (f :: ·)

/-- **A scope with a name assigned:** the binding that is seen is replaced; without one, a global
binding comes to be. -/
def assign (s : Scope) (name : String) (value : Value) : Scope :=
  match replaceIn? name value s.frames with
  | some frames => { s with frames }
  | none => { s with globals := Fields.insert name value s.globals }

/-- **A scope with a name declared** in the innermost frame. -/
def declare (s : Scope) (name : String) (value : Value) : Scope :=
  match s.frames with
  | [] => { s with globals := Fields.insert name value s.globals }
  | f :: rest => { s with frames := { f with vars := Fields.insert name value f.vars } :: rest }

/-- Frames with a name declared in the innermost function frame, if there is one. -/
def declareVarIn? (name : String) (value : Value) : List Frame → Option (List Frame)
  | [] => none
  | f :: rest =>
    if f.isFunction then some ({ f with vars := Fields.insert name value f.vars } :: rest)
    else (declareVarIn? name value rest).map (f :: ·)

/-- **A scope with a name declared** in the innermost function frame. -/
def declareVar (s : Scope) (name : String) (value : Value) : Scope :=
  match declareVarIn? name value s.frames with
  | some frames => { s with frames }
  | none => { s with globals := Fields.insert name value s.globals }

end Scope

/-! ## Computations -/

/-- **A computation on a scope** that may fail; the scope is kept either way. -/
abbrev Eval (α : Type) := ExceptT Fault (StateM Scope) α

/-- A computation that a function of the scope gives. -/
def Eval.ofExcept {α : Type} (r : Except Fault α) : Eval α := fun s => (r, s)

/-- **A run on a scope.** -/
abbrev Run (α : Type) := Process Fault Scope α

/-- A computation as a run. -/
def Run.ofEval {α : Type} (x : Eval α) : Run α := fun s =>
  match x s with
  | (.ok a, s) => (.ok a, s)
  | (.error f, s) => (.error (.fault f), s)

/-- A run inside a frame of its own, which is gone afterwards, however the run ends. -/
def Run.inFrame {α : Type} (f : Frame) (body : Run α) : Run α := fun s =>
  let (r, t) := body (s.push f)
  (r, t.truncate s.depth)

end Stencil.Script
