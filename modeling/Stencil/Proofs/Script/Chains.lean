import Stencil.Proofs.Script.Places

/-!
# Chains and optional links

A chain is an expression with links behind it: members, indices and calls of methods.  An optional
link that finds nothing cuts the rest of its chain off.  There is one thing that a chain does before
its links are followed: it tries a method that changes a list at the place that stands before it.
Then the keys of the place and the arguments are evaluated first, optional links or not.

## Main definitions

* `Stencil.Script.Link` — a link of a chain.
* `Stencil.Script.Expr.chain` — an expression with links behind it.
* `Stencil.Script.Link.follow`, `Stencil.Script.followAll` — what links do to a value.
* `Stencil.Script.Expr.attempt` — what a chain does before its links are followed.
* `Stencil.Script.Expr.callsAtPlace` — whether there is anything that it does first.
* `Stencil.Script.Expr.resume` — how it goes on.

## Main results

* `Stencil.Script.evalChain_chain_eq` — a chain is what it does first, and then its links followed.
* `Stencil.Script.eval_chain_optional` — what an optional link behind nothing cuts off.

## Design

A call of a name is no link but the beginning of a chain, and nothing else than a name or a member
can be called.  Links are put on from the left, so that a statement on a chain is proved by
induction on its links, for all beginnings at once.
-/

set_option relaxedAutoImplicit false
set_option autoImplicit false

namespace Stencil.Script

variable {functions : Functions} {s t : Scope}

/-! ## Links -/

/-- **A link of a chain.**  An optional one stops at nothing. -/
inductive Link where
  /-- A member by name. -/
  | member (property : String) (optional : Bool)
  /-- A member by value. -/
  | index (key : Expr) (optional : Bool)
  /-- A call of a method. -/
  | method (property : String) (optional : Bool) (args : List Expr)

namespace Link

/-- Whether a link is optional. -/
def isOptional : Link → Bool
  | member _ optional => optional
  | index _ optional => optional
  | method _ optional _ => optional

/-- Whether a link calls a method that changes a list. -/
def isChanging : Link → Bool
  | method property _ _ => Script.isChanging property
  | _ => false

/-- An expression with a link behind it. -/
def onto (e : Expr) : Link → Expr
  | member property optional => .member e property optional
  | index key optional => .index e key optional
  | method property optional args => .call (.member e property optional) args

/-- **A link followed** from a value, or from a chain that was cut short. -/
def follow (functions : Functions) (link : Link) (x : Option Value) : Eval (Option Value) := do
  match x with
  | none => return none
  | some v =>
    if link.isOptional && v.isNull then return none
    match link with
    | member property _ => return some (← Eval.ofExcept (v.getProperty property))
    | index key _ =>
      let key := (← evalChain functions key).getD .null
      return some (← Eval.ofExcept (readIndex v key))
    | method property _ args =>
      let args ← evalList functions args
      return some (← Eval.ofExcept (callMethod v property args))

end Link

/-- **An expression with links behind it.** -/
def Expr.chain (e : Expr) : List Link → Expr
  | [] => e
  | link :: links => (link.onto e).chain links

/-- **Links followed,** one after the other. -/
def followAll (functions : Functions) : List Link → Option Value → Eval (Option Value)
  | [], x => return x
  | link :: links, x => do followAll functions links (← link.follow functions x)

/-- Behind a chain that was cut short no link is followed. -/
lemma followAll_none (links : List Link) : followAll functions links none = pure none := by
  induction links with
  | nil => rfl
  | cons link links ih =>
    rw [followAll]
    exact (pure_bind none _).trans ih

/-- An optional link cuts the chain off behind nothing. -/
lemma followAll_optional {link : Link} (hoptional : link.isOptional = true) {x : Option Value}
    (hx : x.getD .null = .null) (links : List Link) :
    followAll functions (link :: links) x = pure none := by
  have hcut : link.follow functions x = pure none := by
    cases x with
    | none => rfl
    | some v =>
      obtain rfl : v = .null := hx
      simp [Link.follow, hoptional, Value.isNull]
  rw [followAll, hcut, pure_bind, followAll_none]

/-! ## Places -/

/-- Whether an expression denotes a place: it is a name with members and indices behind it. -/
def Expr.isPlace : Expr → Bool
  | .name _ => true
  | .member owner _ _ => owner.isPlace
  | .index owner _ _ => owner.isPlace
  | _ => false

/-- What denotes no place has none, and nothing is evaluated to find that out. -/
lemma evalPlace_of_isPlace_eq_false {e : Expr} (h : e.isPlace = false) :
    evalPlace functions e = pure none := by
  cases e with
  | name n => cases h
  | member owner property optional =>
    rw [evalPlace, evalPlace_of_isPlace_eq_false (e := owner) h, pure_bind]
  | index owner key optional =>
    rw [evalPlace, evalPlace_of_isPlace_eq_false (e := owner) h, pure_bind]
  | _ =>
    rw [evalPlace]
    all_goals simp

/-- Links do not make a place of what is none. -/
lemma Link.isPlace_onto {e : Expr} (h : e.isPlace = false) (link : Link) :
    (link.onto e).isPlace = false := by
  cases link with
  | member | index => exact h
  | method => rfl

/-- Behind a call of a method that changes a list there is no place. -/
lemma Link.isPlace_onto_of_isChanging {link : Link} (h : link.isChanging = true) (e : Expr) :
    (link.onto e).isPlace = false := by
  cases link with
  | member | index => cases h
  | method => rfl

/-- A method that changes a list tried at the place that an expression denotes. -/
def tryChange (functions : Functions) (owner : Expr) (property : String) (args : List Expr) :
    Eval (Option Value) := do
  match ← evalPlace functions owner with
  | none => return none
  | some (root, keys) => changeAt root keys property (← evalList functions args)

/-- Where there is no list, something else is done behind what has been tried. -/
lemma callAtPlace_eq (owner : Expr) (property : String) (args : List Expr)
    (otherwise : Eval (Option Value)) :
    callAtPlace functions owner property args otherwise =
      (tryChange functions owner property args >>= fun
        | some v => return some v
        | none => otherwise) := by
  unfold callAtPlace tryChange
  rw [bind_assoc]
  congr 1
  funext place
  cases place with
  | none => rfl
  | some place => exact (bind_assoc (evalList functions args) _ _).symm

/-! ## What a chain does first -/

/-- **Whether a method that changes a list is called at a place** by one of the links behind an
expression. -/
def Expr.callsAtPlace (e : Expr) : List Link → Bool
  | [] => false
  | link :: links => (link.isChanging && e.isPlace) || (link.onto e).callsAtPlace links

/-- A link tried at the place that stands before it: only a call can be. -/
def Link.tryAt (functions : Functions) (e : Expr) : Link → Eval (Option Value)
  | method property _ args => tryChange functions e property args
  | _ => return none

/-- **What a chain does before its links are followed:** the first method that changes a list is
tried at the place before it, if a place stands before it.  If there is a list, this gives the value
of the call and the links behind it. -/
def Expr.attempt (functions : Functions) (e : Expr) :
    List Link → Eval (Option (Value × List Link))
  | [] => return none
  | link :: links =>
    if link.isChanging && e.isPlace then do return (← link.tryAt functions e).map (·, links)
    else (link.onto e).attempt functions links

/-- Nothing is tried where no method that changes a list is called at a place. -/
lemma attempt_of_callsAtPlace_eq_false {e : Expr} {links : List Link}
    (h : e.callsAtPlace links = false) : e.attempt functions links = pure none := by
  induction links generalizing e with
  | nil => rfl
  | cons link links ih =>
    obtain ⟨hhere, hlinks⟩ := Bool.or_eq_false_iff.1 h
    rw [Expr.attempt, hhere, if_neg Bool.false_ne_true]
    exact ih hlinks

/-- Where no name of a namespace stands before a link, its method is called on the value before
it. -/
lemma callInSpace_callOnOwner {e : Expr} (hspace : ∀ n, e = .name n → isNamespace s n = false)
    (property : String) (optional : Bool) (args : List Expr) :
    callInSpace functions e property args (callOnOwner functions e property optional args) s =
      (evalChain functions e >>= (Link.method property optional args).follow functions) s := by
  cases e with
  | name n =>
    show (if isNamespace s n then _ else _ : Eval (Option Value)) s = _
    rw [hspace n rfl, if_neg Bool.false_ne_true]
    rfl
  | _ => rfl

/-- A link is followed from the value before it, if its method is not tried at a place and no
name of a namespace stands before it.

**Proof sketch.** The cases of the link.  Evaluation of a chain goes through its owner first.  Only
two kinds of owner are looked at before they are evaluated: a name, which may be that of a
namespace, and a place, at which a method may change something. -/
lemma evalChain_onto {e : Expr} {link : Link} (hplain : (link.isChanging && e.isPlace) = false)
    (hspace : ∀ n, e = .name n → isNamespace s n = false) :
    evalChain functions (link.onto e) s =
      (evalChain functions e >>= link.follow functions) s := by
  cases link with
  | member property optional =>
    rw [Link.onto, evalChain_member]
    cases e with
    | name n =>
      have hconstant : constant? s n property = none := by simp [constant?, hspace n rfl]
      show (match constant? s n property with
        | some v => (return some v : Eval (Option Value))
        | none => readMember functions (.name n) property optional) s = _
      rw [hconstant]
      rfl
    | _ => rfl
  | index key optional =>
    rw [Link.onto, evalChain]
    rfl
  | method property optional args =>
    rw [Link.onto, evalChain_call_member, ← callInSpace_callOnOwner hspace]
    dsimp only
    split
    · next hchanging =>
      have hplace : e.isPlace = false := by simpa [Link.isChanging, hchanging] using hplain
      rw [callAtPlace, evalPlace_of_isPlace_eq_false hplace, pure_bind]
    · rfl

/-- A link that changes a list is tried, and where there is no list, followed from the value
before it.

**Proof sketch.** The method is tried at the place first.  If there is no list, it is called on the
value, since no namespace has that name in the scope that is left. -/
lemma evalChain_onto_of_isChanging {e : Expr} {link : Link} (hchanging : link.isChanging = true)
    (hspace : ∀ u n, link.tryAt functions e s = (.ok none, u) → e = .name n →
      isNamespace u n = false) :
    evalChain functions (link.onto e) s =
      (link.tryAt functions e >>= fun
        | some v => return some v
        | none => evalChain functions e >>= link.follow functions) s := by
  cases link with
  | member | index => cases hchanging
  | method property optional args =>
    have hmethod : isChanging property = true := hchanging
    simp only [Link.tryAt] at hspace ⊢
    rw [Link.onto, evalChain_call_member]
    dsimp only
    rw [if_pos hmethod, callAtPlace_eq, Process.bind_apply, Process.bind_apply]
    rcases htry : tryChange functions e property args s with ⟨f | result, u⟩
    · rfl
    · cases result with
      | some v => rfl
      | none => exact callInSpace_callOnOwner (hspace u · htry) property optional args

/-- Links behind what is no place are followed from its value. -/
lemma evalChain_chain {e : Expr} (h : e.isPlace = false) (links : List Link) :
    evalChain functions (e.chain links) = evalChain functions e >>= followAll functions links := by
  induction links generalizing e with
  | nil => exact (bind_pure _).symm
  | cons link links ih =>
    have hlink : evalChain functions (link.onto e) =
        evalChain functions e >>= link.follow functions := by
      funext s
      refine evalChain_onto (by rw [h, Bool.and_false]) fun n hn => ?_
      subst hn
      cases h
    rw [Expr.chain, ih (link.isPlace_onto h), hlink, bind_assoc]
    rfl

/-- **How a chain goes on behind what it does first:** from the value of the call if there was a
list, and otherwise from its beginning. -/
def Expr.resume (functions : Functions) (e : Expr) (links : List Link) :
    Option (Value × List Link) → Eval (Option Value)
  | some (v, rest) => followAll functions rest (some v)
  | none => do followAll functions links (← evalChain functions e)

/-- It is the same whether a link belongs to the beginning or is followed from there, if its method
is not tried at a place. -/
lemma resume_onto {e : Expr} {link : Link} (hplain : (link.isChanging && e.isPlace) = false)
    (links : List Link) {tried : Option (Value × List Link)}
    (hspace : tried = none → ∀ n, e = .name n → isNamespace s n = false) :
    (link.onto e).resume functions links tried s = e.resume functions (link :: links) tried s := by
  cases tried with
  | some tried => rfl
  | none =>
    calc (evalChain functions (link.onto e) >>= followAll functions links) s
        = ((evalChain functions e >>= link.follow functions) >>= followAll functions links) s := by
          rw [Process.bind_apply, evalChain_onto hplain (hspace rfl), ← Process.bind_apply]
      _ = (evalChain functions e >>= followAll functions (link :: links)) s := by
          rw [bind_assoc]
          rfl

/-- **A chain is what it does first, and then its links followed.**

**Proof sketch.** Induction on the links, for all beginnings.  The first link is put on the
beginning, and taken off again if nothing is tried at it.  Behind a call nothing is a place any
more, so from there on links are followed. -/
lemma evalChain_chain_eq {e : Expr} {links : List Link}
    (hspace : ∀ u n, e.attempt functions links s = (.ok none, u) → e = .name n →
      isNamespace u n = false) :
    evalChain functions (e.chain links) s =
      (e.attempt functions links >>= e.resume functions links) s := by
  induction links generalizing e with
  | nil =>
    rw [Expr.attempt, pure_bind]
    exact congrFun (bind_pure _).symm s
  | cons link links ih =>
    cases htried : link.isChanging && e.isPlace with
    | true =>
      obtain ⟨hchanging, -⟩ := Bool.and_eq_true_iff.1 htried
      have hattempt : e.attempt functions (link :: links) =
          link.tryAt functions e >>= fun result => return result.map (·, links) := by
        rw [Expr.attempt, htried, if_pos rfl]
      have hlink : ∀ u n, link.tryAt functions e s = (.ok none, u) → e = .name n →
          isNamespace u n = false := by
        intro u n hnone
        refine hspace u n ?_
        rw [hattempt, Process.bind_apply_ok hnone]
        rfl
      rw [Expr.chain, evalChain_chain (Link.isPlace_onto_of_isChanging hchanging e),
        Process.bind_apply, evalChain_onto_of_isChanging hchanging hlink, ← Process.bind_apply,
        bind_assoc, hattempt, bind_assoc]
      refine congrFun (congrArg (link.tryAt functions e >>= ·) ?_) s
      funext result
      cases result with
      | none => exact bind_assoc _ _ _
      | some v => rfl
    | false =>
      rw [Expr.attempt, htried, if_neg Bool.false_ne_true] at hspace ⊢
      -- A beginning with a link on it is no name.
      have honto : ∀ n, link.onto e ≠ .name n := by cases link <;> nofun
      rw [Expr.chain, ih fun u n _ hn => absurd hn (honto n), Process.bind_apply,
        Process.bind_apply]
      rcases hattempt : (link.onto e).attempt functions links s with ⟨f | tried, u⟩
      · rfl
      · refine resume_onto htried links fun hnone n => hspace u n ?_
        rw [hattempt, hnone]

/-! ## Optional links -/

/-- A name that stands for a value stands for no namespace. -/
lemma isNamespace_of_eval_name {n : String} {v : Value}
    (h : eval functions (.name n) s = (.ok v, t)) : isNamespace s n = false := by
  cases hget : s.get? n with
  | some value => simp [isNamespace, Scope.contains, hget]
  | none =>
    have hfail : eval functions (.name n) s = (.error (.undefinedName n), s) := by
      simp only [eval, evalChain, bind_assoc, pure_bind]
      simp only [Process.bind_apply, readName, hget]
    rw [hfail] at h
    cases h

/-- The value of an expression is a matter of its chain. -/
lemma eval_congr {e e' : Expr} (h : evalChain functions e s = evalChain functions e' t) :
    eval functions e s = eval functions e' t := by
  rw [eval, eval, Process.bind_apply, Process.bind_apply, h]

/-- Whether an expression can be called: it is a name or a member. -/
def Expr.isCallable : Expr → Bool
  | .name _ => true
  | .member _ _ _ => true
  | _ => false

/-- A call of anything else is refused before anything of it is evaluated, whatever links are behind
it. -/
lemma eval_call_chain {callee : Expr} (h : callee.isCallable = false) (args : List Expr)
    (links : List Link) : eval functions ((Expr.call callee args).chain links) s =
      (.error (.type (.notFunction "expression")), s) := by
  have hcall : evalChain functions (.call callee args) =
      throw (.type (.notFunction "expression")) := by
    cases callee with
    | name | member => cases h
    | _ =>
      rw [evalChain]
      all_goals nofun
  rw [eval, Process.bind_apply, evalChain_chain rfl, hcall]
  rfl

/-- **An optional link behind nothing cuts off the rest of its chain,** except for what the chain
does first.  Let links stand behind an expression, the first of them optional.

1. If none of the links calls a method that changes a list at a place, and the expression gives
   nothing, then so does the chain.  No key, no argument and no link behind is evaluated: the scope
   is the one behind the expression.
2. If one of them does, then it is tried first.  The keys of the place and the arguments of the call
   are evaluated, behind the optional link or not.  If there is no list at the place, and the
   expression gives nothing then, the scope is the one behind both.
3. If there is a list, it is changed, and the links behind the call are followed from the value of
   the call.  What the expression gives does not matter.
4. If a key or an argument fails, so does the chain.
5. If what the chain leads to is called, and it is no member, nothing is evaluated at all.

**Proof sketch.** A chain is what it does first, and then its links followed (`evalChain_chain_eq`);
where nothing is left, no link is (`followAll_optional`). -/
theorem eval_chain_optional (functions : Functions) {link : Link}
    (hoptional : link.isOptional = true) (base : Expr) (links : List Link) (s : Scope) :
    (base.callsAtPlace (link :: links) = false → ∀ t, eval functions base s = (.ok .null, t) →
      eval functions (base.chain (link :: links)) s = (.ok .null, t)) ∧
    (∀ u t, base.attempt functions (link :: links) s = (.ok none, u) →
      eval functions base u = (.ok .null, t) →
      eval functions (base.chain (link :: links)) s = (.ok .null, t)) ∧
    (∀ v rest u, base.attempt functions (link :: links) s = (.ok (some (v, rest)), u) →
      eval functions (base.chain (link :: links)) s =
        eval functions ((Expr.literal v).chain rest) u) ∧
    (∀ f u, base.attempt functions (link :: links) s = (.error f, u) →
      eval functions (base.chain (link :: links)) s = (.error f, u)) ∧
    ∀ args rest, (base.chain (link :: links)).isCallable = false →
      eval functions ((Expr.call (base.chain (link :: links)) args).chain rest) s =
        (.error (.type (.notFunction "expression")), s) := by
  have hnone : ∀ u t, base.attempt functions (link :: links) s = (.ok none, u) →
      eval functions base u = (.ok .null, t) →
      eval functions (base.chain (link :: links)) s = (.ok .null, t) := by
    intro u t hattempt hbase
    obtain ⟨x, hx, hnull⟩ := eval_eq_ok_iff.1 hbase
    have hspace : ∀ u' n, base.attempt functions (link :: links) s = (.ok none, u') →
        base = .name n → isNamespace u' n = false := by
      rintro u' n hattempt' rfl
      cases hattempt.symm.trans hattempt'
      exact isNamespace_of_eval_name hbase
    refine eval_eq_ok_iff.2 ⟨none, ?_, rfl⟩
    rw [evalChain_chain_eq hspace, Process.bind_apply_ok hattempt]
    show (evalChain functions base >>= followAll functions (link :: links)) u = _
    rw [Process.bind_apply_ok hx, followAll_optional hoptional hnull]
    rfl
  -- Where what is done first decides, the beginning of the chain is not looked at.
  have hdecided : ∀ {r u}, base.attempt functions (link :: links) s = (r, u) → r ≠ .ok none →
      evalChain functions (base.chain (link :: links)) s =
        (base.attempt functions (link :: links) >>= base.resume functions (link :: links)) s := by
    intro r u hattempt hr
    refine evalChain_chain_eq fun u' n hattempt' => ?_
    cases hattempt.symm.trans hattempt'
    exact absurd rfl hr
  refine ⟨fun hcalls t => hnone s t ?_, hnone, fun v rest u hattempt => ?_,
    fun f u hattempt => ?_, fun args rest hcallee => eval_call_chain hcallee args rest⟩
  · rw [attempt_of_callsAtPlace_eq_false hcalls]
    rfl
  · refine eval_congr ?_
    rw [hdecided hattempt (by simp), Process.bind_apply_ok hattempt, evalChain_chain rfl, evalChain,
      pure_bind]
    rfl
  · rw [eval, Process.bind_apply, hdecided hattempt (by simp), Process.bind_apply, hattempt]

/-- A key and an argument behind an optional link that would both write, and are not evaluated. -/
theorem eval_chain_optional_unfollowed :
    let set (n : Nat) : Expr := .assign (.name "x") none (.literal (.ofNat n))
    let links := [.index (set 1) false, .method "concat" false [set 2]]
    let s : Scope := { globals := [("a", .null), ("x", .ofNat 0)] }
    (Link.member "b" true).isOptional = true ∧
      (Expr.name "a").callsAtPlace (.member "b" true :: links) = false ∧
      eval [] (.name "a") s = (.ok .null, s) ∧
      eval [] ((Expr.name "a").chain (.member "b" true :: links)) s = (.ok .null, s) := by
  intro set links s
  have hplain : (Expr.name "a").callsAtPlace (.member "b" true :: links) = false := by decide
  exact ⟨rfl, hplain, rfl, (eval_chain_optional [] rfl (.name "a") links s).1 hplain s rfl⟩

/-- An argument behind an optional link that writes, because the method is one that changes a list.
The chain gives nothing, and leaves another scope than its beginning does. -/
theorem eval_chain_optional_pushing :
    let e : Expr := (Expr.name "a").chain
      [.method "push" true [.assign (.name "x") none (.literal (.ofNat 1))]]
    let s : Scope := { globals := [("a", .null), ("x", .ofNat 0)] }
    let t : Scope := { globals := [("a", .null), ("x", .ofNat 1)] }
    eval [] (.name "a") s = (.ok .null, s) ∧ eval [] e s = (.ok .null, t) ∧ t ≠ s := by
  intro e s t
  refine ⟨rfl, rfl, fun h => ?_⟩
  have hx := congrArg (fun s : Scope => s.get? "x") h
  cases hx

end Stencil.Script
