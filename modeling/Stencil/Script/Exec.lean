import Stencil.Script.Eval

/-!
# Execution of statements

## Main definitions

* `Stencil.Script.elementsOf` — what a loop over elements visits.
* `Stencil.Script.declare`, `Stencil.Script.declareAll` — declarations.
* `Stencil.Script.exec`, `Stencil.Script.execList` — statements.

## Design

A statement runs by recursion on the statement, and every loop is a loop of processes.
-/

set_option relaxedAutoImplicit false
set_option autoImplicit false

namespace Stencil.Script

open Value

/-- **The elements of a value,** or the fault of a value without any. -/
def elementsOf (v : Value) : Except Fault (List Value) :=
  match v.elements? with
  | some items => .ok items
  | none => .error (.type (.notIterable v.toText))

/-- **A declaration.**  A `var` without a value keeps a binding that is there. -/
def declare (functions : Functions) (kind : DeclKind) (name : String) (value : Option Expr) :
    Eval Unit := do
  match value with
  | none =>
    if kind = .var && (← get).contains name then return ()
    bind name .null
  | some e => bind name (← eval functions e)
where
  /-- A name bound in the frame that the kind of declaration goes to. -/
  bind (name : String) (v : Value) : Eval Unit :=
    modify fun s => if kind = .var then s.declareVar name v else s.declare name v

/-- **Declarations,** from left to right. -/
def declareAll (functions : Functions) (kind : DeclKind) :
    List (String × Option Expr) → Eval Unit
  | [] => return ()
  | (name, value) :: rest => do
    declare functions kind name value
    declareAll functions kind rest

/-- Whether a condition holds. -/
def test (functions : Functions) (e : Expr) : Run Bool :=
  Run.ofEval (return (← eval functions e).truthy)

/-- Whether a condition holds, where none always does. -/
def testOptional (functions : Functions) : Option Expr → Run Bool
  | none => return true
  | some e => test functions e

/-- A body run for every value of a list, with a name bound to the value in a frame of its
own. -/
def forBinding (binding : String) (body : Run Unit) (values : List Value) : Run Unit :=
  Process.forEach (fun v => Run.inFrame { vars := [(binding, v)] } body) values

mutual

/-- **A statement.** -/
def exec (functions : Functions) (fuel : Nat) : Stmt → Run Unit
  | .empty => return ()
  | .expr e => Run.ofEval (discard (eval functions e))
  | .declare kind declarations => Run.ofEval (declareAll functions kind declarations)
  | .block body => Run.inFrame {} (execList functions fuel body)
  | .branch condition yes no => do
    if ← test functions condition then exec functions fuel yes else exec functions fuel no
  | .whileLoop condition body =>
    Process.loop (test functions condition) (exec functions fuel body) fuel
  | .forOf binding iterable body => do
    let v ← Run.ofEval (eval functions iterable)
    let items ← Run.ofEval (.ofExcept (elementsOf v))
    forBinding binding (exec functions fuel body) items
  | .forIn binding owner body => do
    let v ← Run.ofEval (eval functions owner)
    forBinding binding (exec functions fuel body) v.keys
  | .forLoop start condition update body => Run.inFrame {} do
    exec functions fuel start
    Process.loop (testOptional functions condition)
      (do
        exec functions fuel body
        match update with
        | none => return ()
        | some e => Run.ofEval (discard (eval functions e)))
      fuel

/-- **Statements,** one after the other. -/
def execList (functions : Functions) (fuel : Nat) : List Stmt → Run Unit
  | [] => return ()
  | s :: rest => do
    exec functions fuel s
    execList functions fuel rest

end

end Stencil.Script
