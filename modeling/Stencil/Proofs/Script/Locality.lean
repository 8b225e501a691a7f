import Stencil.Proofs.Process.Ensuring
import Stencil.Proofs.Script.Congruence
import Stencil.Proofs.Script.Outline

/-!
# Code that writes within its body

Declarations, assignments and counts go by names, and a name may be bound far outside of the body
that writes it.  Code that has first declared what it writes leaves everything outside as it was.

## Main definitions

* `Stencil.Script.Expr.staysIn` — whether an expression writes names of an outline alone.
* `Stencil.Script.Stmt.outlineAfter`, `listOutlineAfter` — the outline after statements that write
  names declared before alone.

## Main results

* `Stencil.Script.ensures_exec`, `ensures_execList` — statements that write names declared before
  alone leave what their frames stand on.

## Design

A `var` without a value keeps a binding that is seen, wherever this is.  So it declares a name for
the body only where the name is not seen around the body.
-/

set_option relaxedAutoImplicit false
set_option autoImplicit false

namespace Stencil.Script

open Process (Ensures Keeps Maintains)

/-! ## What is declared before -/

/-- **Whether an expression writes names of an outline alone.** -/
def Expr.staysIn (o : Outline) (e : Expr) : Bool := e.written.all (· ∈ o.own)

/-- The outline after one of the declarations of a statement, unless its value writes other
names. -/
def Outline.afterDeclaration (u : Scope) (kind : DeclKind) (o : Outline) :
    String × Option Expr → Option Outline
  | (name, some value) =>
    if value.staysIn o then some (if kind = .var then o.addVar name else o.add name) else none
  | (name, none) => some (if kind = .var ∧ o.sees u name then o else o.add name)

mutual

/-- **The outline after a statement** that writes names declared before alone.  There is none for
any other statement. -/
def Stmt.outlineAfter (u : Scope) (o : Outline) : Stmt → Option Outline
  | .empty => some o
  | .expr e => if e.staysIn o then some o else none
  | .declare kind declarations => declarations.foldlM (Outline.afterDeclaration u kind) o
  | .block body => (Stmt.listOutlineAfter u (o.enter .block []) body).map List.tail
  | .branch test yes no =>
    if test.staysIn o && (yes.outlineAfter u o).isSome && (no.outlineAfter u o).isSome then some o
    else none
  | .whileLoop test body =>
    if test.staysIn o && (body.outlineAfter u o).isSome then some o else none
  | .forOf binding iterable body =>
    if iterable.staysIn o && (body.outlineAfter u (o.enter .block [binding])).isSome then some o
    else none
  | .forIn binding object body =>
    if object.staysIn o && (body.outlineAfter u (o.enter .block [binding])).isSome then some o
    else none
  | .forLoop start test update body => do
    let started ← start.outlineAfter u (o.enter .block [])
    let turned ← body.outlineAfter u started
    if test.all (·.staysIn started) && update.all (·.staysIn turned) then some started.tail
    else none

/-- **The outline after statements** that write names declared before alone. -/
def Stmt.listOutlineAfter (u : Scope) (o : Outline) : List Stmt → Option Outline
  | [] => some o
  | stmt :: rest => do Stmt.listOutlineAfter u (← stmt.outlineAfter u o) rest

end

/-! ## Outlines grow -/

namespace Stmt

variable {u : Scope} {kind : DeclKind}

/-- A declaration takes nothing from the outline. -/
lemma extends_afterDeclaration {o o' : Outline} {declaration : String × Option Expr}
    (h : Outline.afterDeclaration u kind o declaration = some o') : o.Extends o' := by
  obtain ⟨name, _ | value⟩ := declaration
  · cases h
    split
    · exact .refl _
    · exact .add _ name
  · obtain ⟨-, h⟩ := Option.ite_none_right_eq_some.1 h
    cases h
    split
    · exact .addVar _ name
    · exact .add _ name

/-- Nor do declarations one after the other. -/
lemma extends_afterDeclarations {o o' : Outline} {declarations : List (String × Option Expr)}
    (h : declarations.foldlM (Outline.afterDeclaration u kind) o = some o') : o.Extends o' := by
  induction declarations generalizing o with
  | nil =>
    cases h
    exact .refl _
  | cons declaration rest ih =>
    obtain ⟨between, hfirst, hrest⟩ := Option.bind_eq_some_iff.1 h
    exact (extends_afterDeclaration hfirst).trans (ih hrest)

mutual

/-- A statement takes nothing from the outline.

**Proof sketch.** Induction on the statement.  A statement with a frame of its own adds to that
frame alone, which is taken off behind it, and a declaration adds to the outline. -/
lemma extends_outlineAfter {o o' : Outline} {stmt : Stmt} (h : stmt.outlineAfter u o = some o') :
    o.Extends o' := by
  cases stmt with
  | empty =>
    cases h
    exact .refl o
  | expr e =>
    obtain ⟨-, h⟩ := Option.ite_none_right_eq_some.1 h
    cases h
    exact .refl o
  | declare kind declarations => exact extends_afterDeclarations h
  | block body =>
    rw [outlineAfter] at h
    obtain ⟨inside, hinside, rfl⟩ := Option.map_eq_some_iff.1 h
    exact (extends_listOutlineAfter hinside).tail
  | forLoop start test update body =>
    rw [outlineAfter] at h
    obtain ⟨started, hstarted, h⟩ := Option.bind_eq_some_iff.1 h
    obtain ⟨turned, -, h⟩ := Option.bind_eq_some_iff.1 h
    obtain ⟨-, h⟩ := Option.ite_none_right_eq_some.1 h
    cases h
    exact (extends_outlineAfter hstarted).tail
  | _ =>
    rw [outlineAfter] at h
    obtain ⟨-, h⟩ := Option.ite_none_right_eq_some.1 h
    cases h
    exact .refl o

/-- Nor do statements one after the other. -/
lemma extends_listOutlineAfter {o o' : Outline} {body : List Stmt}
    (h : Stmt.listOutlineAfter u o body = some o') : o.Extends o' := by
  cases body with
  | nil =>
    cases h
    exact .refl o
  | cons stmt rest =>
    rw [listOutlineAfter] at h
    obtain ⟨between, hstmt, hrest⟩ := Option.bind_eq_some_iff.1 h
    exact (extends_outlineAfter hstmt).trans (extends_listOutlineAfter hrest)

end

end Stmt

/-! ## Expressions -/

variable {u : Scope} {functions : Functions} {fuel : Nat}

/-- A computation as a run ensures what the computation does. -/
lemma Run.ensures_ofEval {α : Type} {P Q E : Scope → Prop} {x : Eval α} (hx : Ensures P Q E x) :
    Ensures P Q E (Run.ofEval x) := by
  intro s hs
  obtain ⟨hok, herror⟩ := hx hs
  unfold Run.ofEval
  rcases hr : x s with ⟨f | a, t⟩ <;> rw [hr] at hok herror
  · exact ⟨fun _ h => (by cases h), fun _ _ => herror rfl⟩
  · exact ⟨fun _ _ => hok rfl, fun _ h => (by cases h)⟩

/-- What does not look at the scope leaves it. -/
lemma Eval.maintains_ofExcept {α : Type} {P : Scope → Prop} (r : Except Fault α) :
    Maintains P (Eval.ofExcept r) :=
  Keeps.maintains (Eval.keeps_ofExcept r)

/-- Expressions that write names of an outline alone leave what its frames stand on. -/
theorem maintains_eval {o : Outline} {e : Expr} (h : e.staysIn o = true) :
    Maintains (u.Above o) (eval functions e) := by
  have hreading : Scope.Reading fun s t => s = t ∧ u.Above o s :=
    { get?_eq := fun s t hst name => by rw [hst.1] }
  refine Keeps.maintains (hreading.eval_of_written functions e fun name hname s t hst value => ?_)
  obtain ⟨rfl, hs⟩ := hst
  exact ⟨rfl, hs.assign (by simpa using List.all_eq_true.1 h name hname) value⟩

/-! ## Statements -/

section Parts

variable {o o' : Outline}

/-- A body in a frame of its own. -/
lemma Run.ensures_inFrame (opening : Opening) (names : List String) {vars : Fields Value}
    (hnames : ∀ name ∈ names, Fields.contains name vars = true) {body : Run Unit}
    (hext : (o.enter opening names).Extends o')
    (hbody : Ensures (u.Above (o.enter opening names)) (u.Above o')
      (u.Above (o.enter opening names)) body) :
    Ensures (u.Above o) (u.Above o'.tail) (u.Above o) (Run.inFrame (opening.frame vars) body) :=
  .within (Scope.push · (opening.frame vars)) (fun s t => t.truncate s.depth) hbody
    (fun _ hs => hs.push opening hnames) (fun _ hs _ ht => hs.truncate ht hext)
    fun _ hs _ ht => hs.truncate ht (.refl _)

/-- Conditions leave what the frames stand on. -/
lemma maintains_test {e : Expr} (h : e.staysIn o = true) :
    Maintains (u.Above o) (test functions e) :=
  Run.ensures_ofEval (.bind (maintains_eval h) fun _ => .pure _)

/-- So do conditions that may be missing. -/
lemma maintains_testOptional {e : Option Expr} (h : e.all (·.staysIn o) = true) :
    Maintains (u.Above o) (testOptional functions e) := by
  cases e with
  | none => exact .pure true
  | some e => exact maintains_test h

/-- So do expressions as statements. -/
lemma maintains_discard {e : Expr} (h : e.staysIn o = true) :
    Maintains (u.Above o) (Run.ofEval (discard (eval functions e))) := by
  refine Run.ensures_ofEval ?_
  show Ensures _ _ _ (Function.const Value () <$> eval functions e)
  rw [map_eq_pure_bind]
  exact .bind (maintains_eval h) fun _ => .pure ()

/-- A declaration is made within.

**Proof sketch.** With a value, the value is evaluated and bound.  Without one, a variable that is
there already is kept; the name is bound to null otherwise.  The outline follows both branches, as
it knows the names in sight. -/
lemma ensures_declare {kind : DeclKind} {name : String} {value : Option Expr}
    (h : Outline.afterDeclaration u kind o (name, value) = some o') :
    Ensures (u.Above o) (u.Above o') (u.Above o) (declare functions kind name value) := by
  have hbind (v : Value) : Ensures (u.Above o)
      (u.Above (if kind = .var then o.addVar name else o.add name)) (u.Above o)
      (declare.bind kind name v) := by
    refine fun s hs => ⟨fun _ _ => ?_, fun _ h => (by cases h)⟩
    show u.Above _ (if kind = .var then s.declareVar name v else s.declare name v)
    split
    · exact hs.declareVar name v
    · exact hs.declare name v
  cases value with
  | some e =>
    obtain ⟨he, h⟩ := Option.ite_none_right_eq_some.1 h
    cases h
    exact .bind (maintains_eval he) fun v => hbind v
  | none =>
    obtain rfl := Option.some.inj h
    refine .get_bind_eq fun s hs => ?_
    by_cases hkept : (decide (kind = .var) && s.contains name) = true
    · rw [if_pos hkept]
      obtain ⟨hkind, hname⟩ := Bool.and_eq_true_iff.1 hkept
      rintro _ rfl
      refine ⟨fun _ _ => ?_, fun _ h => (by cases h)⟩
      split
      · exact hs
      · next hsees =>
        exact hs.add_of_contains (by simpa [of_decide_eq_true hkind] using hsees) hname
    · rw [if_neg hkept]
      refine (hbind .null).imp (fun _ ht => ht ▸ hs) (fun t ht => ht.of_extends ?_) fun _ ht => ht
      split
      · next hsees =>
        rw [if_pos hsees.1]
        exact .addVar o name
      · split
        · exact .add_addVar o name
        · exact .refl _

/-- Declarations one after the other are made within. -/
lemma ensures_declareAll {kind : DeclKind} {declarations : List (String × Option Expr)}
    (h : declarations.foldlM (Outline.afterDeclaration u kind) o = some o') :
    Ensures (u.Above o) (u.Above o') (u.Above o) (declareAll functions kind declarations) := by
  induction declarations generalizing o with
  | nil =>
    cases h
    exact .pure ()
  | cons declaration rest ih =>
    obtain ⟨name, value⟩ := declaration
    obtain ⟨between, hfirst, hrest⟩ := Option.bind_eq_some_iff.1 h
    have hext := Stmt.extends_afterDeclaration hfirst
    refine .bind (ensures_declare hfirst) fun _ => ?_
    exact (ih hrest).imp_error fun _ hs => hs.of_extends hext

/-- What leads to an outline that knows more leads back to the same. -/
lemma maintains_of_isSome {x : Run Unit} {after : Option Outline} (h : after.isSome = true)
    (hext : ∀ ⦃o'⦄, after = some o' → o.Extends o')
    (hx : ∀ ⦃o'⦄, after = some o' → Ensures (u.Above o) (u.Above o') (u.Above o) x) :
    Maintains (u.Above o) x := by
  obtain ⟨o', hafter⟩ := Option.isSome_iff_exists.1 h
  exact (hx hafter).imp_ok fun _ hs => hs.of_extends (hext hafter)

/-- A body run for every value of a list. -/
lemma maintains_forBinding {binding : String} {body : Run Unit}
    (hbody : Maintains (u.Above (o.enter .block [binding])) body) (values : List Value) :
    Maintains (u.Above o) (forBinding binding body values) := by
  refine .forEach (fun v => ?_) values
  exact Run.ensures_inFrame .block [binding] (fun _ hname => contains_binding hname v) (.refl _)
    hbody

end Parts

mutual

/-- **Statements that write names declared before alone** leave what their frames stand on.

**Proof sketch.** Induction on the statement, for all outlines at once.  What stands in a frame of
its own is run at the outline of that frame, and leaves it at the same outline further out or one
that knows more. -/
theorem ensures_exec {o o' : Outline} (stmt : Stmt) (h : stmt.outlineAfter u o = some o') :
    Ensures (u.Above o) (u.Above o') (u.Above o) (exec functions fuel stmt) := by
  cases stmt with
  | empty =>
    cases h
    rw [exec]
    exact .pure ()
  | expr e =>
    obtain ⟨he, h⟩ := Option.ite_none_right_eq_some.1 h
    cases h
    rw [exec]
    exact maintains_discard he
  | declare kind declarations =>
    rw [exec]
    exact Run.ensures_ofEval (ensures_declareAll h)
  | block body =>
    rw [Stmt.outlineAfter] at h
    obtain ⟨inside, hinside, rfl⟩ := Option.map_eq_some_iff.1 h
    rw [exec]
    exact Run.ensures_inFrame .block [] (by simp) (Stmt.extends_listOutlineAfter hinside)
      (ensures_execList body hinside)
  | branch condition yes no =>
    rw [Stmt.outlineAfter] at h
    obtain ⟨hparts, h⟩ := Option.ite_none_right_eq_some.1 h
    cases h
    obtain ⟨hparts, hno⟩ := Bool.and_eq_true_iff.1 hparts
    obtain ⟨htest, hyes⟩ := Bool.and_eq_true_iff.1 hparts
    rw [exec]
    refine .bind (maintains_test htest) fun holds => ?_
    cases holds with
    | true =>
      exact maintains_of_isSome hyes (fun _ => Stmt.extends_outlineAfter) fun _ => ensures_exec yes
    | false =>
      exact maintains_of_isSome hno (fun _ => Stmt.extends_outlineAfter) fun _ => ensures_exec no
  | whileLoop condition body =>
    rw [Stmt.outlineAfter] at h
    obtain ⟨hparts, h⟩ := Option.ite_none_right_eq_some.1 h
    cases h
    obtain ⟨htest, hbody⟩ := Bool.and_eq_true_iff.1 hparts
    rw [exec]
    refine .loop (maintains_test htest) ?_ (fun _ hs => hs) fuel
    exact maintains_of_isSome hbody (fun _ => Stmt.extends_outlineAfter) fun _ => ensures_exec body
  | forOf binding iterable body =>
    rw [Stmt.outlineAfter] at h
    obtain ⟨hparts, h⟩ := Option.ite_none_right_eq_some.1 h
    cases h
    obtain ⟨hiterable, hbody⟩ := Bool.and_eq_true_iff.1 hparts
    rw [exec]
    refine .bind (Run.ensures_ofEval (maintains_eval hiterable)) fun v => ?_
    refine .bind (Run.ensures_ofEval (Eval.maintains_ofExcept _)) fun items => ?_
    refine maintains_forBinding ?_ items
    exact maintains_of_isSome hbody (fun _ => Stmt.extends_outlineAfter) fun _ => ensures_exec body
  | forIn binding object body =>
    rw [Stmt.outlineAfter] at h
    obtain ⟨hparts, h⟩ := Option.ite_none_right_eq_some.1 h
    cases h
    obtain ⟨hobject, hbody⟩ := Bool.and_eq_true_iff.1 hparts
    rw [exec]
    refine .bind (Run.ensures_ofEval (maintains_eval hobject)) fun v => ?_
    refine maintains_forBinding ?_ v.keys
    exact maintains_of_isSome hbody (fun _ => Stmt.extends_outlineAfter) fun _ => ensures_exec body
  | forLoop start condition update body =>
    rw [Stmt.outlineAfter] at h
    obtain ⟨started, hstarted, h⟩ := Option.bind_eq_some_iff.1 h
    obtain ⟨turned, hturned, h⟩ := Option.bind_eq_some_iff.1 h
    obtain ⟨hparts, h⟩ := Option.ite_none_right_eq_some.1 h
    cases h
    obtain ⟨htest, hupdate⟩ := Bool.and_eq_true_iff.1 hparts
    have hback ⦃s : Scope⦄ (hs : u.Above turned s) : u.Above started s :=
      hs.of_extends (Stmt.extends_outlineAfter hturned)
    have hloop {next : Run Unit}
        (hnext : Maintains (u.Above turned) next) :
        Ensures (u.Above o) (u.Above started.tail) (u.Above o) (Run.inFrame {} do
          exec functions fuel start
          Process.loop (testOptional functions condition)
            (do exec functions fuel body; next) fuel) := by
      refine Run.ensures_inFrame .block [] (by simp) (Stmt.extends_outlineAfter hstarted) ?_
      refine .bind (ensures_exec start hstarted) fun _ => ?_
      refine .imp_error (.loop (maintains_testOptional htest) ?_ (fun _ hs => hs) fuel)
        fun _ hs => hs.of_extends (Stmt.extends_outlineAfter hstarted)
      exact .bind (ensures_exec body hturned) fun _ => hnext.imp (fun _ hs => hs) hback hback
    cases update with
    | none =>
      rw [exec]
      exact hloop (.pure ())
    | some e =>
      rw [exec]
      exact hloop (maintains_discard hupdate)

/-- **Lists of statements that write names declared before alone** leave what their frames stand
on. -/
theorem ensures_execList {o o' : Outline} (body : List Stmt)
    (h : Stmt.listOutlineAfter u o body = some o') :
    Ensures (u.Above o) (u.Above o') (u.Above o) (execList functions fuel body) := by
  cases body with
  | nil =>
    cases h
    exact .pure ()
  | cons stmt rest =>
    rw [Stmt.listOutlineAfter] at h
    obtain ⟨between, hstmt, hrest⟩ := Option.bind_eq_some_iff.1 h
    refine .bind (ensures_exec stmt hstmt) fun _ => ?_
    exact (ensures_execList rest hrest).imp_error
      fun _ hs => hs.of_extends (Stmt.extends_outlineAfter hstmt)

end

end Stencil.Script
