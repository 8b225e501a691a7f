import Stencil.Data.Value
import Stencil.Script.Token

/-!
# Expressions and statements

The trees that code from a template is read into.

## Main definitions

* `Stencil.Script.Expr`, `Stencil.Script.Stmt` — expressions and statements.
* `Stencil.Script.Symbol.operator?` — the infix operators and how tightly they bind.
* `Stencil.Script.Expr.isAssignable` — what may be assigned to.
-/

set_option relaxedAutoImplicit false
set_option autoImplicit false

namespace Stencil.Script

/-- An operator in front of its operand. -/
inductive UnaryOp where
  | not
  | negate
  | plus
  | typeOf
  deriving DecidableEq, Repr

/-- An operator between two operands that are both evaluated. -/
inductive BinaryOp where
  | add
  | sub
  | mul
  | div
  | rem
  | eq
  | ne
  | strictEq
  | strictNe
  | lt
  | gt
  | le
  | ge
  deriving DecidableEq, Repr

/-- An operator whose second operand may be left unevaluated. -/
inductive LogicalOp where
  | and
  | or
  | nullish
  deriving DecidableEq, Repr

/-- Counting up or down. -/
inductive Direction where
  | up
  | down
  deriving DecidableEq, Repr

/-- The kinds of declarations. -/
inductive DeclKind where
  | var
  | let
  | const
  deriving DecidableEq, Repr

/-- **An expression.** -/
inductive Expr where
  /-- A value. -/
  | literal (v : Value)
  /-- A name. -/
  | name (n : String)
  /-- A list of elements. -/
  | list (items : List Expr)
  /-- An object of members. -/
  | object (entries : List (String × Expr))
  /-- A member by name; an optional link stops at nothing. -/
  | member (object : Expr) (property : String) (optional : Bool)
  /-- A member by value. -/
  | index (object : Expr) (key : Expr) (optional : Bool)
  /-- A call. -/
  | call (callee : Expr) (args : List Expr)
  /-- An operator in front of its operand. -/
  | unary (op : UnaryOp) (operand : Expr)
  /-- An operator between its operands. -/
  | binary (op : BinaryOp) (left right : Expr)
  /-- A logical operator. -/
  | logical (op : LogicalOp) (left right : Expr)
  /-- A choice between two expressions. -/
  | choice (test yes no : Expr)
  /-- An assignment, possibly combined with an operator. -/
  | assign (target : Expr) (op : Option BinaryOp) (value : Expr)
  /-- A target counted up or down; its value is the one before or after the count. -/
  | update (target : Expr) (direction : Direction) (before : Bool)

/-- **A statement.** -/
inductive Stmt where
  /-- Nothing. -/
  | empty
  /-- An expression. -/
  | expr (e : Expr)
  /-- Declarations of one kind. -/
  | declare (kind : DeclKind) (declarations : List (String × Option Expr))
  /-- Statements in a scope of their own. -/
  | block (body : List Stmt)
  /-- A choice between two statements. -/
  | branch (test : Expr) (yes no : Stmt)
  /-- A loop while a condition holds. -/
  | whileLoop (test : Expr) (body : Stmt)
  /-- A loop over elements. -/
  | forOf (binding : String) (iterable : Expr) (body : Stmt)
  /-- A loop over keys. -/
  | forIn (binding : String) (object : Expr) (body : Stmt)
  /-- A loop with a counter. -/
  | forLoop (start : Stmt) (test update : Option Expr) (body : Stmt)

/-- **What may be assigned to:** a name, or a member behind a link that is not optional. -/
def Expr.isAssignable : Expr → Bool
  | .name _ => true
  | .member _ _ optional => !optional
  | .index _ _ optional => !optional
  | _ => false

/-! ## Operators -/

/-- An infix operator. -/
inductive Operator where
  | binary (op : BinaryOp)
  | logical (op : LogicalOp)
  deriving DecidableEq, Repr

/-- An operator between its operands. -/
def Operator.apply : Operator → Expr → Expr → Expr
  | binary op, left, right => .binary op left right
  | logical op, left, right => .logical op left right

/-- How tightly an operator binds; a larger number binds tighter. -/
def Operator.precedence : Operator → Nat
  | logical .nullish => 1
  | logical .or => 2
  | logical .and => 3
  | binary .eq | binary .ne | binary .strictEq | binary .strictNe => 4
  | binary .lt | binary .gt | binary .le | binary .ge => 5
  | binary .add | binary .sub => 6
  | binary .mul | binary .div | binary .rem => 7

/-- **The infix operator that a symbol stands for.** -/
def Symbol.operator? : Symbol → Option Operator
  | .nullish => some (.logical .nullish)
  | .orOr => some (.logical .or)
  | .andAnd => some (.logical .and)
  | .eq => some (.binary .eq)
  | .ne => some (.binary .ne)
  | .strictEq => some (.binary .strictEq)
  | .strictNe => some (.binary .strictNe)
  | .lt => some (.binary .lt)
  | .gt => some (.binary .gt)
  | .le => some (.binary .le)
  | .ge => some (.binary .ge)
  | .plus => some (.binary .add)
  | .minus => some (.binary .sub)
  | .times => some (.binary .mul)
  | .slash => some (.binary .div)
  | .percent => some (.binary .rem)
  | _ => none

/-- The assignment that a symbol stands for: a plain one, or one combined with an operator. -/
def Symbol.assignment? : Symbol → Option (Option BinaryOp)
  | .assign => some none
  | .plusAssign => some (some .add)
  | .minusAssign => some (some .sub)
  | .timesAssign => some (some .mul)
  | .slashAssign => some (some .div)
  | _ => none

/-- The operator that a token in front of an operand stands for. -/
def Token.unaryOp? : Token → Option UnaryOp
  | .symbol .bang => some .not
  | .symbol .minus => some .negate
  | .symbol .plus => some .plus
  | .word "typeof" => some .typeOf
  | _ => none

/-- The count that a symbol stands for. -/
def Symbol.direction? : Symbol → Option Direction
  | .increment => some .up
  | .decrement => some .down
  | _ => none

/-- The kind of declaration that a token begins. -/
def Token.declKind? : Token → Option DeclKind
  | .word "var" => some .var
  | .word "let" => some .let
  | .word "const" => some .const
  | _ => none

end Stencil.Script
