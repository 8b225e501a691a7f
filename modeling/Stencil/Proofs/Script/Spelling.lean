import Mathlib.Tactic.Lemma
import Stencil.Script.Expr.Parser

/-!
# Expressions as tokens

An expression is written back as a list of tokens, with parentheses only where a place asks for an
expression that binds tighter.

## Main definitions

* `Stencil.Script.Spelling` — how values and keys are written.
* `Stencil.Script.Expr.level` — how tightly an expression holds together.
* `Stencil.Script.Expr.write` — an expression as tokens, at a place that asks for a level.
* `Stencil.Script.Expr.Denotable` — the expressions that tokens can denote.

## Design

A value may have several spellings (`null` and `undefined`, or the numbers that are stored alike),
and a key is a word, a string or a number.  So the tokens of both are left to a `Spelling`, and what
is asked of it is that a token is read as what it stands for.

The levels follow the readers: `0` for an assignment or a choice, `1` to `7` for the infix
operators, `8` in front of an operand, `9` behind it, and `10` for the base of a chain and its
links.
-/

set_option relaxedAutoImplicit false
set_option autoImplicit false

namespace Stencil.Script

/-! ## Symbols of operators -/

/-- The symbol of an infix operator. -/
def Operator.symbol : Operator → Symbol
  | logical .nullish => .nullish
  | logical .or => .orOr
  | logical .and => .andAnd
  | binary .eq => .eq
  | binary .ne => .ne
  | binary .strictEq => .strictEq
  | binary .strictNe => .strictNe
  | binary .lt => .lt
  | binary .gt => .gt
  | binary .le => .le
  | binary .ge => .ge
  | binary .add => .plus
  | binary .sub => .minus
  | binary .mul => .times
  | binary .div => .slash
  | binary .rem => .percent

/-- The token of an operator in front of its operand. -/
def UnaryOp.token : UnaryOp → Token
  | not => .symbol .bang
  | negate => .symbol .minus
  | plus => .symbol .plus
  | typeOf => .word "typeof"

/-- The symbol of a count. -/
def Direction.symbol : Direction → Symbol
  | up => .increment
  | down => .decrement

/-- The symbol of an assignment.  There is none for an operator that no assignment is combined
with. -/
def assignmentSymbol? : Option BinaryOp → Option Symbol
  | none => some .assign
  | some .add => some .plusAssign
  | some .sub => some .minusAssign
  | some .mul => some .timesAssign
  | some .div => some .slashAssign
  | some _ => none

/-- The symbol of an infix operator stands for it. -/
@[simp]
lemma Operator.operator?_symbol (op : Operator) : op.symbol.operator? = some op := by
  rcases op with op | op <;> cases op <;> rfl

/-- The token of an operator in front of its operand stands for it. -/
@[simp]
lemma UnaryOp.unaryOp?_token (op : UnaryOp) : op.token.unaryOp? = some op := by
  cases op <;> rfl

/-- The symbol of a count stands for it. -/
@[simp]
lemma Direction.direction?_symbol (d : Direction) : d.symbol.direction? = some d := by
  cases d <;> rfl

/-- The symbol of an assignment stands for it. -/
lemma Symbol.assignment?_of_symbol {op : Option BinaryOp} {s : Symbol}
    (h : assignmentSymbol? op = some s) : s.assignment? = some op := by
  unfold assignmentSymbol? at h
  split at h <;> cases h <;> rfl

/-- Infix operators bind at seven strengths. -/
lemma Operator.precedence_mem (op : Operator) : 1 ≤ op.precedence ∧ op.precedence ≤ 7 := by
  rcases op with op | op <;> cases op <;> decide

/-! ## Values and keys -/

/-- **How values and keys are written.** -/
structure Spelling where
  /-- The token of a value. -/
  literal : Value → Token
  /-- The token of a key. -/
  key : String → Token

/-- The value that a token stands for by itself. -/
def Token.literal? : Token → Option Value
  | number x => some (Value.ofFloat x)
  | text s => some (.text s)
  | word n =>
    match Expr.ofWord n with
    | .literal v => some v
    | _ => none
  | symbol _ => none

/-- The key that a token stands for. -/
def Token.key? : Token → Option String
  | number x => some (Decimal.displayText x)
  | text s => some s
  | word n => some n
  | symbol _ => none

/-- Words that are no names: those of values, of an operator, and of expressions that are not
supported. -/
def keywords : List String :=
  ["true", "false", "null", "undefined", "typeof"] ++ unsupportedExpressions

/-! ## Writing -/

/-- **How tightly an expression holds together** when it is written without parentheses. -/
def Expr.level : Expr → Nat
  | .assign .. | .choice .. => 0
  | .binary op _ _ => (Operator.binary op).precedence
  | .logical op _ _ => (Operator.logical op).precedence
  | .unary .. | .update _ _ true => 8
  | .update _ _ false => 9
  | .literal _ | .name _ | .list _ | .object _ | .member .. | .index .. | .call .. => 10

/-- Tokens of a level at a place that asks for another one: in parentheses if they have to
be. -/
def enclose (limit level : Nat) (tokens : List Token) : List Token :=
  if level < limit then .symbol .openParen :: tokens ++ [.symbol .closeParen] else tokens

mutual

/-- An expression as tokens, without parentheses around it. -/
def Expr.bare (p : Spelling) : Expr → List Token
  | .literal v => [p.literal v]
  | .name n => [.word n]
  | .list items => .symbol .openBracket :: Expr.bareItems p items ++ [.symbol .closeBracket]
  | .object entries => .symbol .openBrace :: Expr.bareMembers p entries ++ [.symbol .closeBrace]
  | .member owner n optional =>
    enclose 10 owner.level (owner.bare p) ++
      [.symbol (if optional then .optional else .dot), .word n]
  | .index owner key optional =>
    enclose 10 owner.level (owner.bare p) ++ (if optional then [.symbol .optional] else []) ++
      .symbol .openBracket :: key.bare p ++ [.symbol .closeBracket]
  | .call callee args =>
    enclose 10 callee.level (callee.bare p) ++
      .symbol .openParen :: Expr.bareItems p args ++ [.symbol .closeParen]
  | .unary op operand => op.token :: enclose 8 operand.level (operand.bare p)
  | .binary op left right =>
    let q := (Operator.binary op).precedence
    enclose q left.level (left.bare p) ++
      .symbol (Operator.binary op).symbol :: enclose (q + 1) right.level (right.bare p)
  | .logical op left right =>
    let q := (Operator.logical op).precedence
    enclose q left.level (left.bare p) ++
      .symbol (Operator.logical op).symbol :: enclose (q + 1) right.level (right.bare p)
  | .choice test yes no =>
    enclose 1 test.level (test.bare p) ++
      .symbol .question :: yes.bare p ++ .symbol .colon :: no.bare p
  | .assign target op value =>
    enclose 10 target.level (target.bare p) ++
      .symbol ((assignmentSymbol? op).getD .assign) :: value.bare p
  | .update target d true => .symbol d.symbol :: enclose 8 target.level (target.bare p)
  | .update target d false => enclose 10 target.level (target.bare p) ++ [.symbol d.symbol]

/-- Expressions between commas. -/
def Expr.bareItems (p : Spelling) : List Expr → List Token
  | [] => []
  | [e] => e.bare p
  | e :: e' :: rest => e.bare p ++ .symbol .comma :: Expr.bareItems p (e' :: rest)

/-- Members between commas. -/
def Expr.bareMembers (p : Spelling) : List (String × Expr) → List Token
  | [] => []
  | [(k, e)] => p.key k :: .symbol .colon :: e.bare p
  | (k, e) :: entry :: rest =>
    p.key k :: .symbol .colon :: e.bare p ++
      .symbol .comma :: Expr.bareMembers p (entry :: rest)

end

/-- **An expression as tokens,** at a place that asks for a level. -/
def Expr.write (p : Spelling) (limit : Nat) (e : Expr) : List Token :=
  enclose limit e.level (e.bare p)

/-! ## What tokens denote -/

mutual

/-- **The expressions that tokens can denote:** names are no keywords, values and keys have
spellings, and what is assigned to or counted may be assigned to. -/
def Expr.Denotable (p : Spelling) : Expr → Prop
  | .literal v => (p.literal v).literal? = some v
  | .name n => n ∉ keywords
  | .list items => Expr.AllDenotable p items
  | .object entries => Expr.MembersDenotable p entries
  | .member owner _ _ => owner.Denotable p
  | .index owner key _ => owner.Denotable p ∧ key.Denotable p
  | .call callee args => callee.Denotable p ∧ Expr.AllDenotable p args
  | .unary _ operand => operand.Denotable p
  | .binary _ left right => left.Denotable p ∧ right.Denotable p
  | .logical _ left right => left.Denotable p ∧ right.Denotable p
  | .choice test yes no => test.Denotable p ∧ yes.Denotable p ∧ no.Denotable p
  | .assign target op value =>
    target.isAssignable = true ∧ (assignmentSymbol? op).isSome = true ∧
      target.Denotable p ∧ value.Denotable p
  | .update target _ _ => target.isAssignable = true ∧ target.Denotable p

/-- Expressions that tokens can denote. -/
def Expr.AllDenotable (p : Spelling) : List Expr → Prop
  | [] => True
  | e :: rest => e.Denotable p ∧ Expr.AllDenotable p rest

/-- Members that tokens can denote. -/
def Expr.MembersDenotable (p : Spelling) : List (String × Expr) → Prop
  | [] => True
  | (k, e) :: rest =>
    (p.key k).key? = some k ∧ e.Denotable p ∧ Expr.MembersDenotable p rest

end

end Stencil.Script
