import Stencil.Script.Expr
import Stencil.Script.Function

/-!
# Evaluation of expressions

## Main definitions

* `Stencil.Script.evalChain` — the value of an expression, or the word that an optional link cut its
  chain short.
* `Stencil.Script.eval` — the value of an expression.
* `Stencil.Script.evalPlace` — the place that an expression denotes: a name and a path of keys.
* `Stencil.Script.assignTo` — an assignment to a place.

## Design

Expressions evaluate from left to right, and every change is made to the scope at once, so a failure
leaves the changes before it.  Evaluation is by recursion on the expression and needs no fuel.
-/

set_option relaxedAutoImplicit false
set_option autoImplicit false

namespace Stencil.Script

open Value

/-! ## Operators -/

/-- An operator between two values. -/
def BinaryOp.apply (op : BinaryOp) (a b : Value) : Value :=
  match op with
  | add => plus a b
  | sub => ofFloat (a.toFloat - b.toFloat)
  | mul => ofFloat (a.toFloat * b.toFloat)
  | div => ofFloat (a.toFloat / b.toFloat)
  | rem => ofFloat (Decimal.remainder a.toFloat b.toFloat)
  | eq => .bool (looseEquals a b)
  | ne => .bool (!looseEquals a b)
  | strictEq => .bool (strictEquals a b)
  | strictNe => .bool (!strictEquals a b)
  | lt => .bool (compare a b == some .lt)
  | gt => .bool (compare a b == some .gt)
  | le => .bool (compare a b == some .lt || compare a b == some .eq)
  | ge => .bool (compare a b == some .gt || compare a b == some .eq)

/-- Whether the first operand decides a logical operator. -/
def LogicalOp.decides (op : LogicalOp) (v : Value) : Bool :=
  match op with
  | and => !v.truthy
  | or => v.truthy
  | nullish => !v.isNull

/-- An operator in front of a value. -/
def UnaryOp.apply (op : UnaryOp) (v : Value) : Value :=
  match op with
  | not => .bool (!v.truthy)
  | negate => ofFloat (-v.toFloat)
  | plus => ofFloat v.toFloat
  | typeOf => .text v.kind

/-- What counting adds. -/
def Direction.delta : Direction → Float
  | up => 1.0
  | down => -1.0

/-! ## Places -/

/-- The value at a place, if all of the place is there. -/
def Scope.at? (s : Scope) (root : String) (keys : List Value) : Option Value :=
  (s.get? root).bind (Value.at? keys)

/-- A scope with a value put at a place that is there. -/
def Scope.putAt (s : Scope) (root : String) (keys : List Value) (value : Value) : Scope :=
  match s.get? root with
  | some v => s.assign root (Value.putAt keys value v)
  | none => s

/-- A scope with a value assigned to a place.  A name is bound if it is not; a member is set
only of what is there. -/
def Scope.assignAt (s : Scope) (root : String) (keys : List Value) (value : Value) :
    Except Fault Scope :=
  match keys.getLast? with
  | none => .ok (s.assign root value)
  | some last =>
    match s.at? root keys.dropLast with
    | some parent =>
      (parent.setIndex last value).map fun parent => s.putAt root keys.dropLast parent
    | none =>
      if s.contains root then .error (.type (.writeToNothing last.propertyKey))
      else .error (.undefinedName root)

/-- **A value assigned to a place,** unless there is none. -/
def assignTo (place : Option (String × List Value)) (value : Value) : Eval Unit := fun s =>
  match place with
  | none => (.error (.type .invalidTarget), s)
  | some (root, keys) =>
    match s.assignAt root keys value with
    | .ok t => (.ok (), t)
    | .error fault => (.error fault, s)

/-- A method that changes the list at a place; nothing is called where there is no list. -/
def changeAt (root : String) (keys : List Value) (method : String) (args : List Value) :
    Eval (Option Value) := fun s =>
  match s.at? root keys with
  | some (.list items) =>
    match changeList? method items args with
    | some (after, result) => (.ok (some result), s.putAt root keys (.list after))
    | none => (.ok none, s)
  | _ => (.ok none, s)

/-- What a name is bound to. -/
def readName (n : String) : Eval Value := fun s =>
  match s.get? n with
  | some v => (.ok v, s)
  | none => (.error (.undefinedName n), s)

/-- A member by value of something that has to be there. -/
def readIndex (v key : Value) : Except Fault Value :=
  if v.isNull then .error (.type (.readOfNothing key.propertyKey)) else v.getIndex key

/-! ## Expressions -/

mutual

/-- **The value of an expression.**  There is none when an optional link found nothing and cut the
rest of its chain off. -/
def evalChain (functions : Functions) : Expr → Eval (Option Value)
  | .literal v => return some v
  | .name n => return some (← readName n)
  | .list items => return some (.list (← evalList functions items))
  | .object entries => return some (.object (← evalEntries functions [] entries))
  | .member owner property optional => do
    if let .name space := owner then
      if let some v := constant? (← get) space property then return some v
    match ← evalChain functions owner with
    | none => return none
    | some v =>
      if optional && v.isNull then return none
      return some (← Eval.ofExcept (v.getProperty property))
  | .index owner key optional => do
    match ← evalChain functions owner with
    | none => return none
    | some v =>
      if optional && v.isNull then return none
      let key := (← evalChain functions key).getD .null
      return some (← Eval.ofExcept (readIndex v key))
  | .call (.name n) args => do
    let args ← evalList functions args
    return some (← Eval.ofExcept (callFunction functions (← get) n args))
  | .call (.member owner property optional) args => do
    if isChanging property then
      if let some (root, keys) ← evalPlace functions owner then
        let args ← evalList functions args
        if let some v ← changeAt root keys property args then return some v
    if let .name space := owner then
      if isNamespace (← get) space then
        let args ← evalList functions args
        return some (← Eval.ofExcept (callStatic space property args))
    match ← evalChain functions owner with
    | none => return none
    | some receiver =>
      if optional && receiver.isNull then return none
      let args ← evalList functions args
      return some (← Eval.ofExcept (callMethod receiver property args))
  | .call _ _ => throw (.type (.notFunction "expression"))
  | .unary op operand => do
    if let .name n := operand then
      if op = .typeOf && !(← get).contains n then return some (.text "undefined")
    return some (op.apply ((← evalChain functions operand).getD .null))
  | .binary op left right => do
    let a := (← evalChain functions left).getD .null
    let b := (← evalChain functions right).getD .null
    return some (op.apply a b)
  | .logical op left right => do
    let a := (← evalChain functions left).getD .null
    if op.decides a then return some a
    return some ((← evalChain functions right).getD .null)
  | .choice test yes no => do
    if ((← evalChain functions test).getD .null).truthy then
      return some ((← evalChain functions yes).getD .null)
    else return some ((← evalChain functions no).getD .null)
  | .assign target none value => do
    let v := (← evalChain functions value).getD .null
    assignTo (← evalPlace functions target) v
    return some v
  | .assign target (some op) value => do
    let a := (← evalChain functions target).getD .null
    let b := (← evalChain functions value).getD .null
    let v := op.apply a b
    assignTo (← evalPlace functions target) v
    return some v
  | .update target direction before => do
    let old := ((← evalChain functions target).getD .null).toFloat
    let new := ofFloat (old + direction.delta)
    assignTo (← evalPlace functions target) new
    return some (if before then new else ofFloat old)

/-- The values of expressions, from left to right. -/
def evalList (functions : Functions) : List Expr → Eval (List Value)
  | [] => return []
  | e :: rest => do
    let v := (← evalChain functions e).getD .null
    return v :: (← evalList functions rest)

/-- The members of an object beside those evaluated before. -/
def evalEntries (functions : Functions) (fields : Fields Value) :
    List (String × Expr) → Eval (Fields Value)
  | [] => return fields
  | (k, e) :: rest => do
    let v := (← evalChain functions e).getD .null
    evalEntries functions (fields.insert k v) rest

/-- **The place that an expression denotes;** none unless it begins with a name. -/
def evalPlace (functions : Functions) : Expr → Eval (Option (String × List Value))
  | .name n => return some (n, [])
  | .member owner property _ => do
    match ← evalPlace functions owner with
    | none => return none
    | some (root, keys) => return some (root, keys ++ [.text property])
  | .index owner key _ => do
    match ← evalPlace functions owner with
    | none => return none
    | some (root, keys) =>
      let key := (← evalChain functions key).getD .null
      return some (root, keys ++ [key])
  | _ => return none

end

/-- **The value of an expression.**  A chain that was cut short gives nothing. -/
def eval (functions : Functions) (e : Expr) : Eval Value := do
  return (← evalChain functions e).getD .null

end Stencil.Script
