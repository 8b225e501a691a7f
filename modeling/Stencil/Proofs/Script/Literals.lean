import Stencil.Proofs.Script.Endings
import Stencil.Proofs.Script.Steps

/-!
# The literals of code

The literals in code that is read are truth values, numbers and texts, or nothing.  Lists and
objects are written as expressions of their own, and come to be when these are evaluated.

## Main definitions

* `Stencil.Script.Expr.Regular`, `Stencil.Script.Stmt.Regular` — expressions and statements all of
  whose literals are regular.

## Main results

* `Stencil.Script.readsRegular`, `Stencil.Script.statementsReadRegular` — every reader gives regular
  code.
* `Stencil.Script.Expr.regular_ofText`, `Stencil.Script.Stmt.regular_listOfText` — so does the
  reading of a text.
-/

set_option relaxedAutoImplicit false
set_option autoImplicit false

namespace Stencil

/-- A double is a regular value. -/
lemma Value.Regular.ofFloat (x : Float) : (Value.ofFloat x).Regular := by
  unfold Value.ofFloat
  split
  · exact .null
  · split <;> exact .number _

namespace Script

/-! ## Regular code -/

/-- **An expression with regular literals.** -/
inductive Expr.Regular : Expr → Prop
  /-- A value that is regular itself. -/
  | literal {v : Value} : v.Regular → Regular (.literal v)
  /-- A name. -/
  | name (n : String) : Regular (.name n)
  /-- A list of elements. -/
  | list {items : List Expr} : (∀ e ∈ items, Regular e) → Regular (.list items)
  /-- An object of members. -/
  | object {entries : List (String × Expr)} : (∀ entry ∈ entries, Regular entry.2) →
    Regular (.object entries)
  /-- A member by name. -/
  | member {owner : Expr} (property : String) (optional : Bool) : Regular owner →
    Regular (.member owner property optional)
  /-- A member by value. -/
  | index {owner key : Expr} (optional : Bool) : Regular owner → Regular key →
    Regular (.index owner key optional)
  /-- A call. -/
  | call {callee : Expr} {args : List Expr} : Regular callee → (∀ e ∈ args, Regular e) →
    Regular (.call callee args)
  /-- An operator in front of its operand. -/
  | unary {operand : Expr} (op : UnaryOp) : Regular operand → Regular (.unary op operand)
  /-- An operator between its operands. -/
  | binary {left right : Expr} (op : BinaryOp) : Regular left → Regular right →
    Regular (.binary op left right)
  /-- A logical operator. -/
  | logical {left right : Expr} (op : LogicalOp) : Regular left → Regular right →
    Regular (.logical op left right)
  /-- A choice between two expressions. -/
  | choice {test yes no : Expr} : Regular test → Regular yes → Regular no →
    Regular (.choice test yes no)
  /-- An assignment. -/
  | assign {target value : Expr} (op : Option BinaryOp) : Regular target → Regular value →
    Regular (.assign target op value)
  /-- A count. -/
  | update {target : Expr} (direction : Direction) (before : Bool) : Regular target →
    Regular (.update target direction before)

/-- **A statement with regular literals.** -/
inductive Stmt.Regular : Stmt → Prop
  /-- Nothing. -/
  | empty : Regular .empty
  /-- An expression. -/
  | expr {e : Expr} : e.Regular → Regular (.expr e)
  /-- Declarations. -/
  | declare {declarations : List (String × Option Expr)} (kind : DeclKind) :
    (∀ d ∈ declarations, ∀ e ∈ d.2, e.Regular) → Regular (.declare kind declarations)
  /-- Statements in a scope of their own. -/
  | block {body : List Stmt} : (∀ stmt ∈ body, Regular stmt) → Regular (.block body)
  /-- A choice between two statements. -/
  | branch {test : Expr} {yes no : Stmt} : test.Regular → Regular yes → Regular no →
    Regular (.branch test yes no)
  /-- A loop while a condition holds. -/
  | whileLoop {test : Expr} {body : Stmt} : test.Regular → Regular body →
    Regular (.whileLoop test body)
  /-- A loop over elements. -/
  | forOf {iterable : Expr} {body : Stmt} (binding : String) : iterable.Regular → Regular body →
    Regular (.forOf binding iterable body)
  /-- A loop over keys. -/
  | forIn {owner : Expr} {body : Stmt} (binding : String) : owner.Regular → Regular body →
    Regular (.forIn binding owner body)
  /-- A loop with a counter. -/
  | forLoop {start body : Stmt} {test update : Option Expr} : Regular start →
    (∀ e ∈ test, e.Regular) → (∀ e ∈ update, e.Regular) → Regular body →
    Regular (.forLoop start test update body)

/-! ## Readers of expressions -/

/-- What a reader gives is not restricted. -/
lemma Leaves.true {α : Type} (r : Except ReadFault α) : Leaves (fun _ => True) r :=
  fun _ _ => trivial

/-- A word stands for a truth value, for nothing, or for a name. -/
lemma Expr.regular_ofWord (n : String) : (Expr.ofWord n).Regular := by
  unfold Expr.ofWord
  split_ifs
  · exact .literal (.bool true)
  · exact .literal (.bool false)
  · exact .literal .null
  · exact .name n

/-- Every reader of expressions gives regular ones. -/
structure ReadsRegular (fuel : Nat) : Prop where
  assignment : ∀ tokens, Leaves (·.1.Regular) (readAssignment fuel tokens)
  choice : ∀ tokens, Leaves (·.1.Regular) (readChoice fuel tokens)
  operation : ∀ limit tokens, Leaves (·.1.Regular) (readInfix fuel limit tokens)
  operands : ∀ limit {left : Expr} tokens, left.Regular →
    Leaves (·.1.Regular) (readOperands fuel limit left tokens)
  unary : ∀ tokens, Leaves (·.1.Regular) (readUnary fuel tokens)
  counted : ∀ tokens, Leaves (·.1.Regular) (readPostfix fuel tokens)
  links : ∀ {base : Expr} tokens, base.Regular →
    Leaves (·.1.Regular) (readLinks fuel base tokens)
  items : ∀ close tokens, Leaves (∀ e ∈ ·.1, e.Regular) (readItems fuel close tokens)
  members : ∀ tokens, Leaves (∀ entry ∈ ·.1, entry.2.Regular) (readMembers fuel tokens)
  primary : ∀ tokens, Leaves (·.1.Regular) (readPrimary fuel tokens)

namespace ReadsRegular

variable {fuel : Nat} (ih : ReadsRegular fuel) (tokens : List Token)

include ih

/-- An assignment is put together from its target and its value. -/
lemma assignment_succ : Leaves (·.1.Regular) (readAssignment (fuel + 1) tokens) := by
  rw [readAssignment]
  refine (ih.choice tokens).bind ?_
  rintro ⟨target, rest⟩ (htarget : target.Regular)
  dsimp only
  split
  · split
    · exact .error _
    split
    · exact .ok htarget
    next op _ =>
      split
      · exact (ih.assignment _).bind fun p (hvalue : p.1.Regular) => .ok (.assign op htarget hvalue)
      · exact .error _
  · exact .ok htarget

/-- A choice is put together from its three parts. -/
lemma choice_succ : Leaves (·.1.Regular) (readChoice (fuel + 1) tokens) := by
  rw [readChoice]
  refine (ih.operation 0 tokens).bind ?_
  rintro ⟨test, rest⟩ (htest : test.Regular)
  dsimp only
  split
  · exact (ih.assignment _).bind fun p (hyes : p.1.Regular) => (Leaves.true _).bind fun _ _ =>
      (ih.assignment _).bind fun q (hno : q.1.Regular) => .ok (.choice htest hyes hno)
  · exact .ok htest

/-- Infix operators are read behind a first operand. -/
lemma operation_succ (limit : Nat) :
    Leaves (·.1.Regular) (readInfix (fuel + 1) limit tokens) := by
  rw [readInfix]
  exact (ih.unary tokens).bind fun p (hleft : p.1.Regular) => ih.operands limit p.2 hleft

/-- An infix operator is put between its operands. -/
lemma operands_succ (limit : Nat) {left : Expr} (hleft : left.Regular) :
    Leaves (·.1.Regular) (readOperands (fuel + 1) limit left tokens) := by
  rw [readOperands.eq_def]
  dsimp only
  split
  · split
    · exact .ok hleft
    next op _ =>
      split
      · exact .ok hleft
      · refine (ih.operation _ _).bind fun p (hright : p.1.Regular) => ih.operands limit p.2 ?_
        cases op with
        | binary op => exact .binary op hleft hright
        | logical op => exact .logical op hleft hright
  · exact .ok hleft

/-- An operator or a count stands in front of its operand. -/
lemma unary_succ : Leaves (·.1.Regular) (readUnary (fuel + 1) tokens) := by
  rw [readUnary.eq_def]
  dsimp only
  split
  · exact ih.counted _
  · split
    next op _ =>
      exact (ih.unary _).bind fun p (hoperand : p.1.Regular) => .ok (.unary op hoperand)
    · split
      · split
        next direction _ =>
          refine (ih.unary _).bind fun p (htarget : p.1.Regular) => ?_
          split
          · exact .ok (.update direction true htarget)
          · exact .error _
        · exact ih.counted _
      · split
        · exact .error _
        · exact ih.counted _
      · exact ih.counted _

/-- A chain may be counted afterwards. -/
lemma counted_succ : Leaves (·.1.Regular) (readPostfix (fuel + 1) tokens) := by
  rw [readPostfix]
  refine (ih.primary tokens).bind fun p (hbase : p.1.Regular) => (ih.links p.2 hbase).bind ?_
  rintro ⟨e, rest⟩ (he : e.Regular)
  dsimp only
  split
  · split
    next direction _ =>
      split
      · exact .ok (.update direction false he)
      · exact .ok he
    · exact .ok he
  · exact .ok he

/-- A link is put behind its base. -/
lemma links_succ {base : Expr} (hbase : base.Regular) :
    Leaves (·.1.Regular) (readLinks (fuel + 1) base tokens) := by
  have hindex (optional : Bool) (rest : List Token) :
      Leaves (·.1.Regular) (readAssignment fuel rest >>= fun p =>
        expect .closeBracket p.2 >>= fun rest =>
          readLinks fuel (.index base p.1 optional) rest) :=
    (ih.assignment rest).bind fun p (hkey : p.1.Regular) => (Leaves.true _).bind fun _ _ =>
      ih.links _ (.index optional hbase hkey)
  rw [readLinks.eq_def]
  dsimp only
  split
  · exact (Leaves.true _).bind fun _ _ => ih.links _ (.member _ _ hbase)
  · exact hindex true _
  · exact (Leaves.true _).bind fun _ _ => ih.links _ (.member _ _ hbase)
  · exact hindex false _
  · exact (ih.items _ _).bind fun p (hargs : ∀ e ∈ p.1, e.Regular) =>
      ih.links _ (.call hbase hargs)
  · exact .ok hbase

/-- Expressions between commas are read one after the other. -/
lemma items_succ (close : Symbol) :
    Leaves (∀ e ∈ ·.1, e.Regular) (readItems (fuel + 1) close tokens) := by
  by_cases hend : ∃ rest, tokens = .symbol close :: rest
  · obtain ⟨rest, rfl⟩ := hend
    simp only [readItems, if_true]
    exact .ok (List.forall_mem_nil _)
  · rw [readItems_succ (fun rest heq => hend ⟨rest, heq⟩)]
    refine (ih.assignment tokens).bind fun p (hitem : p.1.Regular) => ?_
    dsimp only
    unfold readNextItem
    split
    · exact (ih.items _ _).bind fun q (hitems : ∀ e ∈ q.1, e.Regular) =>
        .ok (List.forall_mem_cons.2 ⟨hitem, hitems⟩)
    · exact (Leaves.true _).bind fun _ _ => .ok (List.forall_mem_singleton.2 hitem)

/-- A member is followed by others, or by the end. -/
lemma nextMember (key : String) {value : Expr} (hvalue : value.Regular) :
    Leaves (∀ entry ∈ ·.1, entry.2.Regular) (readNextMember fuel key value tokens) := by
  unfold readNextMember
  split
  · exact (ih.members _).bind fun p (hentries : ∀ entry ∈ p.1, entry.2.Regular) =>
      .ok (List.forall_mem_cons.2 ⟨hvalue, hentries⟩)
  · exact (Leaves.true _).bind fun _ _ => .ok (List.forall_mem_singleton.2 hvalue)

/-- A key alone stands for the name too. -/
lemma member (key : String) :
    Leaves (∀ entry ∈ ·.1, entry.2.Regular) (readMemberValue fuel key tokens) := by
  unfold readMemberValue
  split
  · exact (ih.assignment _).bind fun p (hvalue : p.1.Regular) => ih.nextMember p.2 key hvalue
  · exact ih.nextMember tokens key (.name key)

/-- Members between commas are read one after the other. -/
lemma members_succ : Leaves (∀ entry ∈ ·.1, entry.2.Regular) (readMembers (fuel + 1) tokens) := by
  rw [readMembers.eq_def]
  dsimp only
  split
  · exact .ok (List.forall_mem_nil _)
  · split
    · exact ih.member _ _
    · exact ih.member _ _
    · exact ih.member _ _
    · exact .error _

/-- The base of a chain is a literal, a name, or something in brackets. -/
lemma primary_succ : Leaves (·.1.Regular) (readPrimary (fuel + 1) tokens) := by
  rw [readPrimary.eq_def]
  dsimp only
  split
  · exact .error _
  · exact .ok (.literal (.ofFloat _))
  · exact .ok (.literal (.text _))
  · exact .ok (Expr.regular_ofWord _)
  · exact (ih.assignment _).bind fun p (he : p.1.Regular) => (Leaves.true _).bind fun _ _ => .ok he
  · exact (ih.items _ _).bind fun p (hitems : ∀ e ∈ p.1, e.Regular) => .ok (.list hitems)
  · exact (ih.members _).bind fun p (hentries : ∀ entry ∈ p.1, entry.2.Regular) =>
      .ok (.object hentries)
  · exact .error _

end ReadsRegular

/-- **Every reader of expressions gives regular ones.**

**Proof sketch.** Induction on the fuel, all readers at once.  A reader puts together what the
others give, and only the base of a chain is made from a token: a number, a text, or a word that
stands for a truth value or for nothing. -/
theorem readsRegular (fuel : Nat) : ReadsRegular fuel := by
  induction fuel with
  | zero => constructor <;> intros <;> exact .error _
  | succ fuel ih =>
    exact
      { assignment := ih.assignment_succ
        choice := ih.choice_succ
        operation := fun limit tokens => ih.operation_succ tokens limit
        operands := fun limit _ tokens hleft => ih.operands_succ tokens limit hleft
        unary := ih.unary_succ
        counted := ih.counted_succ
        links := fun tokens hbase => ih.links_succ tokens hbase
        items := fun close tokens => ih.items_succ tokens close
        members := ih.members_succ
        primary := ih.primary_succ }

/-! ## Readers of statements -/

section

variable (fuel : Nat) (tokens : List Token)

/-- An expression in parentheses is regular. -/
lemma readCondition_regular : Leaves (·.1.Regular) (readCondition fuel tokens) := by
  unfold readCondition
  exact (Leaves.true _).bind fun rest _ =>
    ((readsRegular fuel).assignment rest).bind fun p (htest : p.1.Regular) =>
      (Leaves.true _).bind fun _ _ => .ok htest

/-- An expression up to a symbol is regular, if it is there. -/
lemma readOptional_regular (stop : Symbol) :
    Leaves (∀ e ∈ ·.1, e.Regular) (readOptional fuel stop tokens) := by
  have present : Leaves (∀ e ∈ ·.1, e.Regular) (readAssignment fuel tokens >>= fun p =>
      expect stop p.2 >>= fun rest => .ok (some p.1, rest)) :=
    ((readsRegular fuel).assignment tokens).bind fun p (he : p.1.Regular) =>
      (Leaves.true _).bind fun _ _ => .ok fun _ heq => Option.some.inj heq ▸ he
  unfold readOptional
  split
  · split
    · exact .ok nofun
    · exact present
  · exact present

/-- Declarations between commas have regular values. -/
lemma readDeclarations_regular :
    Leaves (∀ d ∈ ·.1, ∀ e ∈ d.2, e.Regular) (readDeclarations fuel tokens) := by
  induction fuel generalizing tokens with
  | zero => exact .error _
  | succ fuel ih =>
    have next (n : String) {value : Option Expr} (hvalue : ∀ e ∈ value, e.Regular)
        (rest : List Token) : Leaves (∀ d ∈ ·.1, ∀ e ∈ d.2, e.Regular)
          (readNextDeclaration fuel n value rest) := by
      unfold readNextDeclaration
      split
      · exact (ih _).bind fun p (hothers : ∀ d ∈ p.1, ∀ e ∈ d.2, e.Regular) =>
          .ok (List.forall_mem_cons.2 ⟨hvalue, hothers⟩)
      · exact .ok (List.forall_mem_singleton.2 hvalue)
    rw [readDeclarations.eq_def]
    dsimp only
    refine (Leaves.true _).bind ?_
    rintro ⟨n, rest⟩ -
    dsimp only
    split
    · refine Leaves.bind (.map ((readsRegular fuel).assignment _) ?_)
        fun p (hvalue : ∀ e ∈ p.1, e.Regular) => next n hvalue p.2
      exact fun p (hp : p.1.Regular) _ heq => Option.some.inj heq ▸ hp
    · have hnone : ∀ e ∈ (none : Option Expr), e.Regular := nofun
      exact next n hnone rest

/-- What a counting loop starts with is regular. -/
lemma readStart_regular : Leaves (·.1.Regular) (readStart fuel tokens) := by
  have stop {start : Except ReadFault (Stmt × List Token)} (hstart : Leaves (·.1.Regular) start) :
      Leaves (·.1.Regular) (start >>= fun p =>
        expect .semicolon p.2 >>= fun rest => .ok (p.1, rest)) :=
    hstart.bind fun p (hp : p.1.Regular) => (Leaves.true _).bind fun _ _ => .ok hp
  have expression (tokens : List Token) : Leaves (·.1.Regular)
      ((readAssignment fuel tokens).map fun p => (Stmt.expr p.1, p.2)) :=
    ((readsRegular fuel).assignment tokens).map fun _ he => .expr he
  rw [readStart.eq_def]
  dsimp only
  split
  · exact .ok .empty
  · split
    next token rest _ =>
      split
      next kind _ =>
        exact stop ((readDeclarations_regular fuel rest).map fun _ h => .declare kind h)
      · exact stop (expression _)
    · exact stop (expression _)

/-- Declarations as a statement are regular. -/
lemma readDeclared_regular (kind : DeclKind) :
    Leaves (·.1.Regular) (readStatement.readDeclared fuel kind tokens) := by
  unfold readStatement.readDeclared
  exact (readDeclarations_regular fuel tokens).bind
    fun p (hp : ∀ d ∈ p.1, ∀ e ∈ d.2, e.Regular) =>
      (Leaves.true _).bind fun _ _ => .ok (.declare kind hp)

/-- An expression as a statement is regular. -/
lemma readSimple_regular : Leaves (·.1.Regular) (readStatement.readSimple fuel tokens) := by
  unfold readStatement.readSimple
  exact ((readsRegular fuel).assignment tokens).bind fun p (hp : p.1.Regular) =>
    (Leaves.true _).bind fun _ _ => .ok (.expr hp)

end

/-- Every reader of statements gives regular ones. -/
structure StatementsReadRegular (fuel : Nat) : Prop where
  statement : ∀ tokens, Leaves (·.1.Regular) (readStatement fuel tokens)
  block : ∀ tokens, Leaves (∀ stmt ∈ ·.1, stmt.Regular) (readBlock fuel tokens)

namespace StatementsReadRegular

variable {fuel : Nat} (ih : StatementsReadRegular fuel) (tokens : List Token)

include ih

/-- A statement is put together from its parts.

**Proof sketch.** The cases of the first token.  Each reader gives regular parts, by assumption or
by the lemma on it, and the constructor of `Stmt.Regular` puts them together. -/
lemma statement_succ : Leaves (·.1.Regular) (readStatement (fuel + 1) tokens) := by
  rw [readStatement.eq_def]
  dsimp only
  split
  · exact .ok .empty
  · exact (ih.block _).bind fun p (hbody : ∀ stmt ∈ p.1, stmt.Regular) => .ok (.block hbody)
  · exact readDeclared_regular fuel _ .var
  · exact readDeclared_regular fuel _ .let
  · exact readDeclared_regular fuel _ .const
  · refine (readCondition_regular fuel _).bind fun p (htest : p.1.Regular) =>
      (ih.statement _).bind ?_
    rintro ⟨yes, rest⟩ (hyes : yes.Regular)
    dsimp only
    split
    · exact (ih.statement _).bind fun q (hno : q.1.Regular) => .ok (.branch htest hyes hno)
    · exact .ok (.branch htest hyes .empty)
  · exact (readCondition_regular fuel _).bind fun p (htest : p.1.Regular) =>
      (ih.statement _).bind fun q (hbody : q.1.Regular) => .ok (.whileLoop htest hbody)
  · refine (Leaves.true _).bind fun head _ => ?_
    split
    next binding elements _ _ =>
      refine ((readsRegular fuel).assignment _).bind fun p (hsource : p.1.Regular) =>
        (Leaves.true _).bind fun _ _ => (ih.statement _).bind fun q (hbody : q.1.Regular) => ?_
      cases elements with
      | true => exact .ok (.forOf binding hsource hbody)
      | false => exact .ok (.forIn binding hsource hbody)
    · exact (readStart_regular fuel _).bind fun p (hstart : p.1.Regular) =>
        (readOptional_regular fuel _ .semicolon).bind fun q (htest : ∀ e ∈ q.1, e.Regular) =>
        (readOptional_regular fuel _ .closeParen).bind fun r (hupdate : ∀ e ∈ r.1, e.Regular) =>
        (ih.statement _).bind fun body (hbody : body.1.Regular) =>
          .ok (.forLoop hstart htest hupdate hbody)
  · split
    · exact .error _
    · exact readSimple_regular fuel _
  · exact readSimple_regular fuel _

/-- Statements up to a closing brace are read one after the other. -/
lemma block_succ : Leaves (∀ stmt ∈ ·.1, stmt.Regular) (readBlock (fuel + 1) tokens) := by
  rw [readBlock.eq_def]
  dsimp only
  split
  · exact .ok (List.forall_mem_nil _)
  · exact .error _
  · exact (ih.statement _).bind fun p (hfirst : p.1.Regular) =>
      (ih.block _).bind fun q (hothers : ∀ stmt ∈ q.1, stmt.Regular) =>
        .ok (List.forall_mem_cons.2 ⟨hfirst, hothers⟩)

end StatementsReadRegular

/-- **Every reader of statements gives regular ones.** -/
theorem statementsReadRegular (fuel : Nat) : StatementsReadRegular fuel := by
  induction fuel with
  | zero => constructor <;> intros <;> exact .error _
  | succ fuel ih => exact ⟨ih.statement_succ, ih.block_succ⟩

/-- Statements up to the end are regular. -/
lemma readStatements_regular (fuel : Nat) (tokens : List Token) :
    Leaves (∀ stmt ∈ ·, stmt.Regular) (readStatements fuel tokens) := by
  induction fuel generalizing tokens with
  | zero =>
    cases tokens with
    | nil => exact .ok (List.forall_mem_nil _)
    | cons token rest => exact .error _
  | succ fuel ih =>
    cases tokens with
    | nil => exact .ok (List.forall_mem_nil _)
    | cons token rest =>
      rw [readStatements.eq_def]
      exact ((statementsReadRegular fuel).statement _).bind fun p (hfirst : p.1.Regular) =>
        (ih p.2).bind fun others (hothers : ∀ stmt ∈ others, stmt.Regular) =>
          .ok (List.forall_mem_cons.2 ⟨hfirst, hothers⟩)

/-! ## Texts -/

/-- **A text that is read as an expression** is read as one with regular literals. -/
theorem Expr.regular_ofText {code : String} {e : Expr} (h : Expr.ofText code = .ok e) :
    e.Regular := by
  have hall (tokens : List Token) : Leaves Expr.Regular (Expr.ofAllTokens tokens) := by
    unfold Expr.ofAllTokens
    refine ((readsRegular _).assignment tokens).bind fun p (hp : p.1.Regular) => ?_
    dsimp only
    split
    · exact .ok hp
    · exact .ok hp
    · exact .error _
    · exact .error _
  unfold Expr.ofText at h
  cases htokens : Token.ofChars code.toList with
  | error fault => rw [htokens] at h; cases h
  | ok tokens =>
    rw [htokens, Except.bind] at h
    cases hread : Expr.ofAllTokens tokens with
    | error fault => rw [hread] at h; cases h
    | ok e' =>
      rw [hread] at h
      cases h
      exact hall tokens e hread

/-- **A text that is read as statements** is read as statements with regular literals. -/
theorem Stmt.regular_listOfText {code : String} {body : List Stmt}
    (h : Stmt.listOfText code = .ok body) : ∀ stmt ∈ body, stmt.Regular := by
  obtain ⟨tokens, -, hread⟩ := Stmt.exists_tokens h
  exact readStatements_regular _ tokens body hread

end Script

end Stencil
