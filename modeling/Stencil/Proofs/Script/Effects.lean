import Stencil.Proofs.Script.Congruence

/-!
# Expressions and the bindings they leave

An expression that only reads leaves the bindings as they are, however it ends.  An expression that
writes does so in its last step.  So where what it evaluates before leaves the bindings as they are,
it either comes to its end or has changed nothing.

## Main definitions

* `Stencil.Script.Scope.Is` — the relation that holds between a scope and itself alone.
* `Stencil.Script.Expr.IsWrite` — an expression that writes, and what it evaluates before.
* `Stencil.Script.Atomic` — a computation that fails without having changed anything.

## Main results

* `Stencil.Script.eval_snd_of_isReadOnly` — an expression that only reads leaves the scope.
* `Stencil.Script.eval_failed_write` — a write that fails leaves the scope.

## Design

That a computation leaves a scope is the special case of a relation that it keeps: the scope is
related to itself, and nothing else is related to anything.  Reading keeps this relation, because it
cannot tell a scope from itself.
-/

set_option relaxedAutoImplicit false
set_option autoImplicit false

namespace Stencil.Script

open Process (Simulates Keeps)

variable {functions : Functions} {s t : Scope} {α β : Type}

/-! ## Computations that leave a scope -/

/-- **One scope on both sides.** -/
def Scope.Is (u s t : Scope) : Prop := s = u ∧ t = u

/-- A computation keeps a scope if it leaves it when it is run there. -/
lemma keeps_is_iff {x : Eval α} : Keeps s.Is x ↔ (x s).2 = s := by
  constructor
  · intro hx
    exact (hx ⟨rfl, rfl⟩).2.1
  · intro hx
    apply Keeps.of_forall
    rintro _ _ ⟨rfl, rfl⟩
    exact ⟨rfl, hx, hx⟩

/-- The same names are bound in a scope and itself. -/
lemma Scope.reading_is (s : Scope) : Reading s.Is where
  get?_eq := by
    rintro _ _ ⟨rfl, rfl⟩ name
    rfl

/-- An expression leaves the scope that its chain leaves. -/
lemma eval_snd (functions : Functions) (e : Expr) (s : Scope) :
    (eval functions e s).2 = (evalChain functions e s).2 := by
  unfold eval
  rw [Process.bind_apply]
  rcases evalChain functions e s with ⟨_ | _, t⟩ <;> rfl

/-- **Expressions that only read leave the scope.**  Let there be no assignment, no count and no
call of a method that changes a list anywhere in an expression.  Then it leaves every frame and the
globals as they are, whether it gives a value or fails, and whatever the functions of the host
give.

**Proof sketch.** To leave the scope is to keep equality with it, and reading respects any such
relation (`Scope.reading_is`). -/
theorem eval_snd_of_isReadOnly (functions : Functions) {e : Expr} (h : e.isReadOnly = true)
    (s : Scope) : (eval functions e s).2 = s := by
  rw [eval_snd]
  exact keeps_is_iff.1 (s.reading_is.evalChain functions e h)

/-- A call of a function of the host that fails, behind an optional link and a member of a namespace
that are read. -/
theorem eval_snd_of_isReadOnly_failing :
    let functions : Functions := [("refuse", fun _ => .error "no")]
    let e : Expr := .call (.name "refuse")
      [.index (.member (.name "user") "tags" true) (.name "k") false,
        .call (.member (.name "Object") "keys" false) [.name "user"]]
    let s : Scope :=
      { globals := [("k", .text "first"), ("user", .object [("tags", .list [.text "a"])])] }
    e.isReadOnly = true ∧ (eval functions e s).2 = s ∧
      (eval functions e s).1 = .error (.function "refuse" "no") := by
  intro functions e s
  exact ⟨rfl, eval_snd_of_isReadOnly functions rfl s, rfl⟩

/-! ## Writes -/

/-- The keys of a place, in the order in which they are evaluated. -/
def Expr.keys : Expr → List Expr
  | .member owner _ _ => owner.keys
  | .index owner key _ => owner.keys ++ [key]
  | _ => []

/-- **A write, with the expressions that it evaluates.**  An assignment evaluates its right side and
the keys of its target.  One with an operator, and a count, read the target besides.  A call of a
method that changes a list evaluates the keys of the place and the arguments, and where there is no
list, the owner. -/
inductive Expr.IsWrite : Expr → List Expr → Prop
  /-- An assignment. -/
  | assign (target value : Expr) : IsWrite (.assign target none value) (value :: target.keys)
  /-- An assignment with an operator. -/
  | combine (target : Expr) (op : BinaryOp) (value : Expr) :
    IsWrite (.assign target (some op) value) (target :: value :: target.keys)
  /-- A count. -/
  | count (target : Expr) (direction : Direction) (before : Bool) :
    IsWrite (.update target direction before) (target :: target.keys)
  /-- A call of a method that changes a list. -/
  | change (owner : Expr) {property : String} (optional : Bool) (args : List Expr) :
    isChanging property = true →
    IsWrite (.call (.member owner property optional) args) (owner :: (args ++ owner.keys))

/-- The place of an expression leaves the scope if its keys do. -/
lemma keeps_evalPlace {e : Expr} (h : ∀ key ∈ e.keys, Keeps s.Is (evalChain functions key)) :
    Keeps s.Is (evalPlace functions e) := by
  cases e with
  | member owner property optional =>
    rw [evalPlace]
    refine Simulates.bind (keeps_evalPlace (e := owner) h) fun place => ?_
    cases place <;> exact .pure _
  | index owner key optional =>
    have howner : ∀ k ∈ owner.keys, Keeps s.Is (evalChain functions k) :=
      fun k hk => h k (List.mem_append_left _ hk)
    have hkey : Keeps s.Is (evalChain functions key) :=
      h key (List.mem_append_right _ (List.mem_singleton_self key))
    rw [evalPlace]
    refine Simulates.bind (keeps_evalPlace howner) fun place => ?_
    cases place with
    | none => exact .pure none
    | some place => exact .bind hkey fun v => .pure _
  | _ =>
    rw [evalPlace]
    · exact .pure _
    all_goals simp

/-- Expressions one after the other leave the scope if each of them does. -/
lemma keeps_evalList {es : List Expr} (h : ∀ e ∈ es, Keeps s.Is (evalChain functions e)) :
    Keeps s.Is (evalList functions es) := by
  induction es with
  | nil =>
    rw [evalList]
    exact .pure []
  | cons e rest ih =>
    rw [evalList]
    refine Simulates.bind (h e List.mem_cons_self) fun v => ?_
    exact .bind (ih fun e' he' => h e' (List.mem_cons_of_mem e he')) fun vs => .pure _

/-- A method that changes a list never fails: there is a list, or there is none. -/
lemma changeAt_ne_error {root property : String} {keys values : List Value} {f : Fault} :
    changeAt root keys property values s ≠ (.error f, t) := by
  unfold changeAt
  split
  · split <;> nofun
  · nofun

/-- Where there is no list to change, the scope is left. -/
lemma scope_of_changeAt_none {root property : String} {keys values : List Value}
    (h : changeAt root keys property values s = (.ok none, t)) : t = s := by
  unfold changeAt at h
  split at h
  · split at h <;> cases h
    rfl
  · cases h
    rfl

/-! ## Failing without a trace -/

/-- **A computation that changes nothing when it fails** from a scope. -/
def Atomic (s : Scope) (x : Eval α) : Prop := ∀ ⦃f t⦄, x s = (.error f, t) → t = s

namespace Atomic

/-- What leaves the scope changes nothing. -/
lemma of_keeps {x : Eval α} (hx : Keeps s.Is x) : Atomic s x := by
  intro f t h
  have hsnd : (x s).2 = s := keeps_is_iff.1 hx
  rwa [h] at hsnd

/-- What leaves the scope may come before. -/
lemma bind {x : Eval α} {g : α → Eval β} (hx : Keeps s.Is x) (hg : ∀ a, Atomic s (g a)) :
    Atomic s (x >>= g) := by
  intro f t h
  have hsnd : (x s).2 = s := keeps_is_iff.1 hx
  rw [Process.bind_apply] at h
  rcases hxs : x s with ⟨e | a, u⟩ <;> rw [hxs] at h hsnd <;> dsimp only at h hsnd
  · cases h
    exact hsnd
  · subst hsnd
    exact hg a h

/-- A value may be given behind. -/
lemma map {x : Eval α} (hx : Atomic s x) (g : α → β) :
    Atomic s (x >>= fun a => Pure.pure (g a)) := by
  intro f t h
  rw [Process.bind_apply] at h
  rcases hxs : x s with ⟨e | a, u⟩ <;> rw [hxs] at h <;> dsimp only at h
  · cases h
    exact hx hxs
  · cases h

/-- An assignment to a place changes nothing unless it can be made. -/
lemma assignTo (place : Option (String × List Value)) (value : Value) :
    Atomic s (assignTo place value) := by
  intro f t h
  rcases place with _ | ⟨root, keys⟩
  · cases h
    rfl
  · simp only [Script.assignTo] at h
    cases hassign : s.assignAt root keys value <;> rw [hassign] at h <;> cases h
    rfl

/-- A method that changes a list does so in its last step.  If there is no list, the scope is as it
was, and the method is called some other way. -/
lemma callAtPlace {owner : Expr} {args : List Expr} {otherwise : Eval (Option Value)}
    (hplace : Keeps s.Is (evalPlace functions owner)) (hargs : Keeps s.Is (evalList functions args))
    (property : String) (hotherwise : Atomic s otherwise) :
    Atomic s (callAtPlace functions owner property args otherwise) := by
  refine bind hplace fun place => ?_
  cases place with
  | none => exact hotherwise
  | some place =>
    obtain ⟨root, keys⟩ := place
    refine bind hargs fun values => ?_
    intro f t h
    rw [Process.bind_apply] at h
    rcases hchange : changeAt root keys property values s with ⟨f' | result, u⟩ <;>
      rw [hchange] at h
    · cases changeAt_ne_error hchange
    · cases result with
      | none =>
        obtain rfl := scope_of_changeAt_none hchange
        exact hotherwise h
      | some v => cases h

end Atomic

/-- **A write that fails leaves the scope.**  Let an expression be an assignment, an assignment with
an operator, a count, or a call of a method that changes a list, and let what it evaluates leave the
scope, as it does if it only reads.  If the write fails, for whatever reason, then every frame and
the globals are as they were before.

**Proof sketch.** What is evaluated first leaves the scope, whether it fails or not.  Then the place
is changed, or there is a fault and it is not.  Behind a change nothing can fail. -/
theorem eval_failed_write {e : Expr} {operands : List Expr} (hwrite : e.IsWrite operands)
    (hoperands : ∀ p ∈ operands, (eval functions p s).2 = s) {f : Fault}
    (hfail : eval functions e s = (.error f, t)) : t = s := by
  have hparts : ∀ p ∈ operands, Keeps s.Is (evalChain functions p) := by
    intro p hp
    rw [keeps_is_iff, ← eval_snd]
    exact hoperands p hp
  suffices hchain : Atomic s (evalChain functions e) from (hchain.map _) hfail
  cases hwrite with
  | assign target value =>
    have hplace := keeps_evalPlace fun key hkey => hparts key (List.mem_cons_of_mem _ hkey)
    rw [evalChain]
    refine .bind (hparts value List.mem_cons_self) fun v => .bind hplace fun place => ?_
    exact (Atomic.assignTo place _).map _
  | combine target op value =>
    have hvalue := hparts value (List.mem_cons_of_mem _ List.mem_cons_self)
    have hplace := keeps_evalPlace fun key hkey =>
      hparts key (List.mem_cons_of_mem _ (List.mem_cons_of_mem _ hkey))
    rw [evalChain]
    refine .bind (hparts target List.mem_cons_self) fun a => .bind hvalue fun b => ?_
    exact .bind hplace fun place => (Atomic.assignTo place _).map _
  | count target direction before =>
    have hplace := keeps_evalPlace fun key hkey => hparts key (List.mem_cons_of_mem _ hkey)
    rw [evalChain]
    refine .bind (hparts target List.mem_cons_self) fun v => .bind hplace fun place => ?_
    exact (Atomic.assignTo place _).map _
  | @change owner property optional args hchanging =>
    have howner := hparts owner List.mem_cons_self
    have hargs := keeps_evalList fun p hp =>
      hparts p (List.mem_cons_of_mem _ (List.mem_append_left _ hp))
    have hplace := keeps_evalPlace fun key hkey =>
      hparts key (List.mem_cons_of_mem _ (List.mem_append_right _ hkey))
    have hplain : Keeps s.Is (callInSpace functions owner property args
        (callOnOwner functions owner property optional args)) :=
      s.reading_is.callInSpace hargs property (keeps_callOnOwner howner hargs property optional)
    rw [evalChain_call_member]
    simp only [hchanging, if_true]
    exact .callAtPlace hplace hargs property (.of_keeps hplain)

/-- An assignment with an operator to an element of a list, by a key that is no position.  It reads
nothing there, and only the write fails. -/
theorem eval_failed_write_invalid_position :
    let e : Expr := .assign (.index (.member (.name "page") "tags" false) (.name "k") false)
      (some .add) (.literal (.text "!"))
    let s : Scope :=
      { globals := [("k", .text "first"), ("page", .object [("tags", .list [.text "a"])])] }
    (eval [] e s).1 = .error (.type (.invalidIndex "first")) ∧ (eval [] e s).2 = s := by
  intro e s
  have hfail : eval [] e s = (.error (.type (.invalidIndex "first")), (eval [] e s).2) := rfl
  refine ⟨rfl, eval_failed_write (.combine _ _ _) (fun p hp => ?_) hfail⟩
  simp only [Expr.keys, List.nil_append, List.mem_cons, List.not_mem_nil, or_false] at hp
  rcases hp with rfl | rfl | rfl <;> rfl

end Stencil.Script
