import Mathlib.Algebra.Group.Nat.Defs
import Stencil.Proofs.Process.Stopping
import Stencil.Proofs.Script.Writing
import Stencil.Script.Evaluator

/-!
# Lists that grow

A list grows to hold the position at which an element is set, if lists can grow so far.  Positions
come from doubles, of which none is the largest position; but all that are larger stand for it, and
it has no successor.

## Main definitions

* `Stencil.Value.whole?` — the whole number that a value stands for as a position, however large.
* `Stencil.Value.OutOfReach` — a key for a position that a list cannot grow to hold.
* `Stencil.Script.Expr.targets`, `Stencil.Script.Stmt.targets` — the expressions to which code
  assigns.
* `Stencil.Script.Overflowed` — a scope in which an assignment to a target has failed for the length
  of a list.
* `Stencil.Script.Eval.Overflows`, `Stencil.Script.Run.Overflows` — what fails for it only in some
  scopes.

## Main results

* `Stencil.Value.whole?_ne_maxPosition` — no value stands for the largest position itself.
* `Stencil.Value.setIndex_list` — what becomes of a list in which an element is set.
* `Stencil.Script.Scope.assignAt_eq_listTooLong_iff` — which assignments fail for the length of a
  list.
* `Stencil.Script.overflows_evalChain`, `overflows_exec` — nothing else fails for it.
* `Stencil.Script.lists_grow` — the growth of lists, and the fragments that fail for it.

## Design

A fault does not say where it comes from, but the scope that is left does: it is the one in which
the target of an assignment has just been evaluated, except that inner frames are gone.  What is
shown of code is therefore shown for every property of such scopes that does not depend on inner
frames.
-/

set_option relaxedAutoImplicit false
set_option autoImplicit false

namespace Stencil

/-! ## Whole numbers -/

namespace Decimal

variable {x : Float} {i : Nat}

/-- The significand of a double has at most 53 bits. -/
lemma Binary.significand_lt {b : Binary} (h : Binary.ofFloat? x = some b) :
    b.significand < 2 ^ 53 := by
  have hfraction : x.toBits.toNat % twoPow 52 < twoPow 52 := Nat.mod_lt _ (by decide)
  have hbits : twoPow 52 = 2 ^ 52 := rfl
  unfold Binary.ofFloat? at h
  dsimp only at h
  split at h
  · cases h
  · split at h
    · cases h
      dsimp only
      omega
    · cases h
      dsimp only
      omega

/-- No double is the largest position.

**Proof sketch.** The largest position is odd and has 64 bits.  A whole number of 53 bits is
smaller, and one that is longer is even. -/
lemma Binary.truncate_ne {b : Binary} (hb : b.significand < 2 ^ 53) :
    b.truncate ≠ Value.maxPosition := by
  have hposition : Value.maxPosition = 2 ^ 64 - 1 := rfl
  rw [hposition, truncate]
  split
  · cases b.exponent.toNat with
    | zero =>
      have hone : twoPow 0 = 1 := rfl
      rw [hone]
      omega
    | succ n =>
      have hdouble : b.significand * twoPow (n + 1) = b.significand * twoPow n * 2 :=
        (Nat.mul_assoc b.significand (2 ^ n) 2).symm
      rw [hdouble]
      omega
  · have hle := Nat.div_le_self b.significand (twoPow (-b.exponent).toNat)
    omega

/-- The whole number that a double is, if it is one and is not negative. -/
def whole? (x : Float) : Option Nat :=
  match Binary.ofFloat? x with
  | none => none
  | some b => if b.isIntegral ∧ (b.negative → b.significand = 0) then some b.truncate else none

/-- The whole number that a double is is not the largest position. -/
lemma whole?_ne_maxPosition (h : whole? x = some i) : i ≠ Value.maxPosition := by
  unfold whole? at h
  split at h
  · cases h
  next b hb =>
    obtain ⟨-, h⟩ := Option.ite_none_right_eq_some.1 h
    obtain rfl := Option.some.inj h
    exact Binary.truncate_ne (Binary.significand_lt hb)

end Decimal

namespace Value

open Script

variable {key value : Value} {items : List Value} {i : Nat}

/-- **The whole number that a value stands for as a position,** however large. -/
def whole? : Value → Option Nat
  | .number n => Decimal.whole? n.toFloat
  | .text s => (Decimal.readFloat? s.toList).bind Decimal.whole?
  | _ => none

/-- A position is the whole number that a value stands for, as far as there are positions. -/
lemma arrayIndex?_eq (key : Value) : key.arrayIndex? = key.whole?.map (min · maxPosition) := by
  have hdouble (x : Float) :
      (match Decimal.Binary.ofFloat? x with
        | none => none
        | some b =>
          if b.isIntegral ∧ (b.negative → b.significand = 0) then some (min b.truncate maxPosition)
          else none) = (Decimal.whole? x).map (min · maxPosition) := by
    unfold Decimal.whole?
    cases Decimal.Binary.ofFloat? x with
    | none => rfl
    | some b =>
      dsimp only
      split <;> rfl
  cases key with
  | number n => exact hdouble _
  | text s =>
    rw [arrayIndex?, whole?]
    cases Decimal.readFloat? s.toList with
    | none => rfl
    | some x => exact hdouble x
  | _ => rfl

/-- **No value stands for the largest position itself.** -/
lemma whole?_ne_maxPosition (h : key.whole? = some i) : i ≠ maxPosition := by
  cases key with
  | number n => exact Decimal.whole?_ne_maxPosition h
  | text s =>
    obtain ⟨x, -, hx⟩ := Option.bind_eq_some_iff.1 h
    exact Decimal.whole?_ne_maxPosition hx
  | _ => cases h

/-! ## Setting elements -/

/-- A list grows to hold the position, and no further. -/
lemma length_setElement (items : List Value) (i : Nat) (value : Value) :
    (setElement items i value).length = max items.length (i + 1) := by
  unfold setElement
  split
  · rw [List.length_set]
    omega
  · simp only [List.length_append, List.length_replicate, List.length_singleton]
    omega

/-- Between its elements and the one that is set, a list that grows has nothing. -/
lemma getElem?_setElement_of_ne {j : Nat} (hne : j ≠ i) (hj : j < max items.length (i + 1)) :
    (setElement items i value)[j]? = some (items[j]?.getD .null) := by
  cases hitem : items[j]? with
  | some v => exact getElem?_setElement_other hne hitem value
  | none =>
    have hlength : items.length ≤ j := List.getElem?_eq_none_iff.1 hitem
    have hlt : ¬ i < items.length := by omega
    rw [setElement, if_neg hlt, List.append_assoc, List.getElem?_append_right hlength,
      List.getElem?_append_left (by rw [List.length_replicate]; omega), List.getElem?_replicate,
      if_pos (by omega)]
    rfl

/-- A key that is no whole number is no position. -/
lemma arrayIndex?_eq_none (h : key.whole? = none) : key.arrayIndex? = none := by
  rw [arrayIndex?_eq, h]
  rfl

/-- The position that a whole number stands for has a successor in 64 bits unless the number has
none.

**Proof sketch.** A number from 2⁶⁴ on stands for the largest position.  A smaller one stands for
itself, and is not that one (`whole?_ne_maxPosition`). -/
lemma arrayIndex?_of_whole? (h : key.whole? = some i) :
    key.arrayIndex? = some (min i maxPosition) ∧ (min i maxPosition + 1 < 2 ^ 64 ↔ i < 2 ^ 64) := by
  have hposition : maxPosition = 2 ^ 64 - 1 := rfl
  have hne := whole?_ne_maxPosition h
  refine ⟨by rw [arrayIndex?_eq, h, Option.map_some], by omega⟩

/-- **A key out of the reach of a list:** it stands for a position that the list neither holds nor
can grow to hold. -/
def OutOfReach (items : List Value) (key : Value) : Prop :=
  ∃ i, key.arrayIndex? = some i ∧ items.length ≤ i ∧ maxLength ≤ i

/-- **What becomes of a list in which an element is set,** at a position in its reach: the list
holds what it held, the new element, and nothing in between. -/
theorem setIndex_list (hkey : key.arrayIndex? = some i) (hi : i < items.length ∨ i < maxLength)
    (value : Value) :
    ∃ after, setIndex (.list items) key value = .ok (.list after) ∧
      after.length = max items.length (i + 1) ∧ after[i]? = some value ∧
      ∀ j, j ≠ i → j < after.length → after[j]? = some (items[j]?.getD .null) := by
  refine ⟨setElement items i value, ?_, length_setElement _ _ _, getElem?_setElement_same _ _ _,
    fun j hj hlt => ?_⟩
  · simp only [setIndex, hkey, if_pos hi]
  · rw [length_setElement] at hlt
    exact getElem?_setElement_of_ne hj hlt

/-- A key that is no position is refused. -/
lemma setIndex_list_of_none (hkey : key.arrayIndex? = none) (value : Value) :
    setIndex (.list items) key value = .error (.type (.invalidIndex key.toText)) := by
  rw [setIndex, hkey]

/-- No element is set out of the reach of a list. -/
lemma OutOfReach.setIndex_list (h : OutOfReach items key) (value : Value) :
    setIndex (.list items) key value = .error .listTooLong := by
  obtain ⟨i, hkey, hlength, hi⟩ := h
  simp only [setIndex, hkey]
  exact if_neg (not_or.2 ⟨Nat.not_lt.2 hlength, Nat.not_lt.2 hi⟩)

/-- A member is set in a list that would be too long only out of its reach.

**Proof sketch.** Only lists have elements set, and the cases of the key say what becomes of a
list. -/
lemma setIndex_eq_listTooLong_iff {v : Value} :
    setIndex v key value = .error .listTooLong ↔
      ∃ items, v = .list items ∧ OutOfReach items key := by
  constructor
  · intro h
    cases v with
    | list items =>
      cases hkey : key.arrayIndex? with
      | none =>
        rw [setIndex_list_of_none hkey] at h
        cases h
      | some i =>
        by_cases hi : i < items.length ∨ i < maxLength
        · obtain ⟨after, hafter, -⟩ := setIndex_list hkey hi value
          rw [hafter] at h
          cases h
        · rw [not_or, Nat.not_lt, Nat.not_lt] at hi
          exact ⟨items, rfl, i, hkey, hi.1, hi.2⟩
    | _ => cases h
  · rintro ⟨items, rfl, hreach⟩
    exact hreach.setIndex_list value

end Value

namespace Script

open Process (StopsIn)

variable {functions : Functions} {s t : Scope} {root : String} {keys : List Value} {value : Value}

/-! ## Assignments -/

/-- **An assignment fails for the length of a list** exactly when it sets an element of a list out
of its reach.

**Proof sketch.** An assignment writes its last key into what stands at the keys before it, so its
fault is that of `Value.setIndex` there. -/
theorem Scope.assignAt_eq_listTooLong_iff :
    s.assignAt root keys value = .error .listTooLong ↔
      ∃ parents last items, keys = parents ++ [last] ∧
        s.at? root parents = some (.list items) ∧ Value.OutOfReach items last := by
  rcases List.eq_nil_or_concat' keys with rfl | ⟨parents, last, rfl⟩
  · simp [assignAt]
  · simp only [assignAt, List.getLast?_concat, List.dropLast_concat]
    cases hparent : s.at? root parents with
    | none =>
      constructor
      · intro h
        dsimp only at h
        split at h <;> cases h
      · rintro ⟨_, _, items, heq, hat, -⟩
        obtain ⟨rfl, -⟩ := List.append_inj' heq rfl
        rw [hparent] at hat
        cases hat
    | some parent =>
      constructor
      · intro h
        cases hset : parent.setIndex last value with
        | ok w => simp [hset, Except.map] at h
        | error fault =>
          simp only [hset, Except.map] at h
          cases h
          obtain ⟨items, rfl, hreach⟩ := Value.setIndex_eq_listTooLong_iff.1 hset
          exact ⟨parents, last, items, rfl, hparent, hreach⟩
      · rintro ⟨_, _, items, heq, hat, hreach⟩
        obtain ⟨rfl, hlast⟩ := List.append_inj' heq rfl
        obtain rfl := List.singleton_inj.1 hlast
        obtain rfl := Option.some.inj (hparent.symm.trans hat)
        dsimp only
        rw [hreach.setIndex_list value]
        rfl

/-! ## Faults of functions and methods -/

section

open Value

variable {v key : Value} {name : String} {args : List Value}

/-- To read a member by name does not fail for the length of a list. -/
lemma getProperty_ne_listTooLong : v.getProperty name ≠ .error .listTooLong := by
  cases v <;> nofun

/-- Nor does to read one by value. -/
lemma readIndex_ne_listTooLong : readIndex v key ≠ .error .listTooLong := by
  unfold readIndex getIndex
  split
  · nofun
  · split
    · nofun
    · nofun
    · exact getProperty_ne_listTooLong

/-- Nor does a call by name: functions of the host fail with messages of their own. -/
lemma callFunction_ne_listTooLong : callFunction functions s name args ≠ .error .listTooLong := by
  unfold callFunction
  split
  next f _ =>
    cases f args <;> nofun
  · split
    · nofun
    · split <;> nofun

/-- Nor does a function of a namespace. -/
lemma callStatic_ne_listTooLong {space : String} :
    callStatic space name args ≠ .error .listTooLong := by
  unfold callStatic
  dsimp only
  split
  · unfold callJson?
    dsimp only
    split
    · nofun
    · split <;> nofun
    · nofun
  · cases callMath? name args <;> nofun
  · cases callObject? name args <;> nofun
  · split <;> nofun
  · nofun

/-- A text that would be too long is another fault. -/
lemma lengthFault?_ne_listTooLong {text : String} :
    lengthFault? text name args ≠ some .listTooLong := by
  unfold lengthFault?
  dsimp only
  split_ifs <;> nofun

/-- Nor does a method fail for the length of a list. -/
lemma callMethod_ne_listTooLong : callMethod v name args ≠ .error .listTooLong := by
  unfold callMethod
  cases v with
  | text s =>
    dsimp only
    split
    next fault hfault =>
      intro heq
      cases heq
      exact lengthFault?_ne_listTooLong hfault
    · split
      · nofun
      · split <;> nofun
  | _ =>
    dsimp only
    repeat' split
    all_goals nofun

/-- Nor does a loop over a value without elements. -/
lemma elementsOf_ne_listTooLong : elementsOf v ≠ .error .listTooLong := by
  unfold elementsOf
  split <;> nofun

end

/-! ## Targets -/

mutual

/-- **The expressions to which an expression assigns,** or which it counts. -/
def Expr.targets : Expr → List Expr
  | .literal _ => []
  | .name _ => []
  | .list items => Expr.listTargets items
  | .object entries => Expr.entriesTargets entries
  | .member owner _ _ => owner.targets
  | .index owner key _ => owner.targets ++ key.targets
  | .call callee args => callee.targets ++ Expr.listTargets args
  | .unary _ operand => operand.targets
  | .binary _ left right => left.targets ++ right.targets
  | .logical _ left right => left.targets ++ right.targets
  | .choice test yes no => test.targets ++ (yes.targets ++ no.targets)
  | .assign target _ value => target :: (target.targets ++ value.targets)
  | .update target _ _ => target :: target.targets

/-- The expressions to which expressions assign. -/
def Expr.listTargets : List Expr → List Expr
  | [] => []
  | e :: rest => e.targets ++ Expr.listTargets rest

/-- The expressions to which the members of an object assign. -/
def Expr.entriesTargets : List (String × Expr) → List Expr
  | [] => []
  | (_, e) :: rest => e.targets ++ Expr.entriesTargets rest

end

/-- The expressions to which an expression assigns, if it is there. -/
def Expr.optionTargets (e : Option Expr) : List Expr := e.elim [] Expr.targets

mutual

/-- **The expressions to which a statement assigns.** -/
def Stmt.targets : Stmt → List Expr
  | .empty => []
  | .expr e => e.targets
  | .declare _ declarations => declarations.flatMap fun d => Expr.optionTargets d.2
  | .block body => Stmt.listTargets body
  | .branch condition yes no => condition.targets ++ (yes.targets ++ no.targets)
  | .whileLoop condition body => condition.targets ++ body.targets
  | .forOf _ iterable body => iterable.targets ++ body.targets
  | .forIn _ owner body => owner.targets ++ body.targets
  | .forLoop start condition update body =>
    start.targets ++ (Expr.optionTargets condition ++
      (Expr.optionTargets update ++ body.targets))

/-- The expressions to which statements assign. -/
def Stmt.listTargets : List Stmt → List Expr
  | [] => []
  | stmt :: rest => stmt.targets ++ Stmt.listTargets rest

end

/-- **A scope in which an assignment has failed for the length of a list:** its target denoted an
element, out of the reach of the list, of a list that is there.  Inner frames may be gone since. -/
def Overflowed (functions : Functions) (target : Expr) (t : Scope) : Prop :=
  ∃ s u depth root parents last items,
    evalPlace functions target s = (.ok (some (root, parents ++ [last])), u) ∧
      u.at? root parents = some (.list items) ∧ Value.OutOfReach items last ∧
      t = u.truncate depth

/-- To cut frames off twice is to cut them off at the smaller depth. -/
lemma Scope.truncate_truncate (s : Scope) (m n : Nat) :
    (s.truncate m).truncate n = s.truncate (min m n) := by
  unfold truncate
  simp only [List.drop_drop, List.length_drop, Scope.mk.injEq, true_and]
  congr 1
  omega

/-- An assignment has failed in a scope, whatever inner frames are gone since. -/
lemma Overflowed.truncate {target : Expr} (h : Overflowed functions target t) (depth : Nat) :
    Overflowed functions target (t.truncate depth) := by
  obtain ⟨s, u, d, root, parents, last, items, hplace, hat, hreach, rfl⟩ := h
  exact ⟨s, u, min d depth, root, parents, last, items, hplace, hat, hreach,
    u.truncate_truncate d depth⟩

/-! ## Evaluation -/

variable {Q : Scope → Prop}

/-- **A computation that fails for the length of a list** only in some scopes. -/
abbrev Eval.Overflows {α : Type} (Q : Scope → Prop) (x : Eval α) : Prop := StopsIn .listTooLong Q x

/-- **A run that fails for the length of a list** only in some scopes. -/
abbrev Run.Overflows {α : Type} (Q : Scope → Prop) (x : Run α) : Prop :=
  StopsIn (.fault .listTooLong) Q x

/-- What is computed without the scope does not fail for the length of a list, if its result is not
that fault. -/
lemma Eval.overflows_ofExcept {α : Type} {r : Except Fault α} (h : r ≠ .error .listTooLong) :
    (Eval.ofExcept r).Overflows Q :=
  fun _ _ heq => absurd (congrArg Prod.fst heq) h

/-- A computation as a run fails where the computation does. -/
lemma Run.overflows_ofEval {α : Type} {x : Eval α} (hx : x.Overflows Q) :
    (Run.ofEval x).Overflows Q := by
  intro s t h
  unfold Run.ofEval at h
  split at h
  · cases h
  next f u hs =>
    cases h
    exact hx hs

/-- A property of scopes that does not depend on inner frames. -/
def Unwinds (Q : Scope → Prop) : Prop := ∀ ⦃t⦄, Q t → ∀ depth, Q (t.truncate depth)

/-- That an assignment has failed does not depend on inner frames. -/
lemma Unwinds.of_overflowed (functions : Functions) (targets : List Expr) :
    Unwinds fun t => ∃ target ∈ targets, Overflowed functions target t :=
  fun _ ⟨target, hmem, ht⟩ depth => ⟨target, hmem, ht.truncate depth⟩

/-- A run in a frame of its own fails in a scope without that frame. -/
lemma Run.overflows_inFrame {α : Type} (hQ : Unwinds Q) (f : Frame) {body : Run α}
    (h : body.Overflows Q) : (Run.inFrame f body).Overflows Q := by
  intro s t heq
  unfold Run.inFrame at heq
  rcases hbody : body (s.push f) with ⟨r, u⟩
  rw [hbody] at heq
  cases heq
  exact hQ (h hbody) s.depth

/-- To read a name does not fail for the length of a list. -/
lemma overflows_readName (name : String) : (readName name).Overflows Q := by
  intro s t h
  unfold readName at h
  split at h <;> cases h

/-- Nor does a method that changes a list. -/
lemma overflows_changeAt (root : String) (keys : List Value) (method : String)
    (args : List Value) : (changeAt root keys method args).Overflows Q := by
  intro s t h
  unfold changeAt at h
  split at h
  · split at h <;> cases h
  · cases h

/-- An assignment fails for the length of a list where its target has overflowed. -/
lemma overflows_assignToPlace {target : Expr} (hplace : (evalPlace functions target).Overflows Q)
    (htarget : ∀ ⦃t⦄, Overflowed functions target t → Q t) (value : Value) :
    Eval.Overflows Q (do assignTo (← evalPlace functions target) value) := by
  refine hplace.bind_of_ok fun s place u t hs h => ?_
  rcases place with _ | ⟨root, keys⟩
  · cases h
  · unfold assignTo at h
    dsimp only at h
    split at h
    · cases h
    next fault hassign =>
      cases h
      obtain ⟨parents, last, items, rfl, hat, hreach⟩ :=
        Scope.assignAt_eq_listTooLong_iff.1 hassign
      refine htarget ⟨s, u, u.depth, root, parents, last, items, hs, hat, hreach, ?_⟩
      simp [Scope.truncate, Scope.depth]

/-- A property of all scopes in which an assignment to one of some targets has failed for the
length of a list. -/
def Covers (functions : Functions) (Q : Scope → Prop) (targets : List Expr) : Prop :=
  ∀ target ∈ targets, ∀ ⦃t⦄, Overflowed functions target t → Q t

namespace Covers

variable {first second : List Expr}

/-- What covers two lists of targets covers the first. -/
lemma left (h : Covers functions Q (first ++ second)) : Covers functions Q first :=
  fun target hmem => h target (List.mem_append_left _ hmem)

/-- It covers the second. -/
lemma right (h : Covers functions Q (first ++ second)) : Covers functions Q second :=
  fun target hmem => h target (List.mem_append_right _ hmem)

/-- The scopes in which an assignment to one of some targets has failed have such a property. -/
lemma of_overflowed (functions : Functions) (targets : List Expr) :
    Covers functions (fun t => ∃ target ∈ targets, Overflowed functions target t) targets :=
  fun target hmem _ ht => ⟨target, hmem, ht⟩

end Covers

section

variable {owner : Expr} {args : List Expr} {otherwise : Eval (Option Value)}

/-- To read a member fails where its owner does. -/
lemma overflows_readMember (howner : (evalChain functions owner).Overflows Q) (property : String)
    (optional : Bool) : (readMember functions owner property optional).Overflows Q := by
  refine howner.bind fun receiver => ?_
  cases receiver with
  | none => exact .pure none
  | some v =>
    dsimp only
    split
    · exact .pure none
    · exact .bind (Eval.overflows_ofExcept getProperty_ne_listTooLong) fun v => .pure (some v)

/-- A method fails where its owner or its arguments do. -/
lemma overflows_callOnOwner (howner : (evalChain functions owner).Overflows Q)
    (hargs : (evalList functions args).Overflows Q) (property : String) (optional : Bool) :
    (callOnOwner functions owner property optional args).Overflows Q := by
  refine howner.bind fun receiver => ?_
  cases receiver with
  | none => exact .pure none
  | some v =>
    dsimp only
    split
    · exact .pure none
    · exact .bind hargs fun values =>
        .bind (Eval.overflows_ofExcept callMethod_ne_listTooLong) fun v => .pure (some v)

/-- A constant does not fail for the length of a list. -/
lemma overflows_constantOr (property : String) (hotherwise : otherwise.Overflows Q) :
    (constantOr owner property otherwise).Overflows Q := by
  cases owner with
  | name space =>
    refine StopsIn.get_bind fun s => ?_
    split
    · exact .pure (some _)
    · exact hotherwise
  | _ => exact hotherwise

/-- A function of a namespace fails where its arguments do. -/
lemma overflows_callInSpace (hargs : (evalList functions args).Overflows Q) (property : String)
    (hotherwise : otherwise.Overflows Q) :
    (callInSpace functions owner property args otherwise).Overflows Q := by
  cases owner with
  | name space =>
    refine StopsIn.get_bind fun s => ?_
    split
    · exact .bind hargs fun values =>
        .bind (Eval.overflows_ofExcept callStatic_ne_listTooLong) fun v => .pure (some v)
    · exact hotherwise
  | _ => exact hotherwise

/-- A method that changes a list fails where its place or its arguments do. -/
lemma overflows_callAtPlace (hplace : (evalPlace functions owner).Overflows Q)
    (hargs : (evalList functions args).Overflows Q) (property : String)
    (hotherwise : otherwise.Overflows Q) :
    (callAtPlace functions owner property args otherwise).Overflows Q := by
  refine hplace.bind fun place => ?_
  cases place with
  | none => exact hotherwise
  | some place =>
    refine .bind hargs fun values => .bind (overflows_changeAt _ _ _ _) fun result => ?_
    cases result with
    | none => exact hotherwise
    | some v => exact .pure (some v)

end

mutual

/-- **An expression fails for the length of a list** only where one of its targets has overflowed.

**Proof sketch.** Induction on the expression.  Reading members, calling functions and methods, and
changing a list in place fail in other ways; so what fails is an assignment to a target
(`overflows_assignToPlace`). -/
theorem overflows_evalChain (functions : Functions) (e : Expr)
    (h : Covers functions Q e.targets) : (evalChain functions e).Overflows Q := by
  cases e with
  | literal v =>
    rw [evalChain]
    exact .pure (some v)
  | name n =>
    rw [evalChain]
    exact .bind (overflows_readName n) fun v => .pure (some v)
  | list items =>
    rw [evalChain]
    exact .bind (overflows_evalList functions items h) fun values => .pure _
  | object entries =>
    rw [evalChain]
    exact .bind (overflows_evalEntries functions [] entries h) fun fields => .pure _
  | member owner property optional =>
    rw [evalChain_member]
    exact overflows_constantOr property
      (overflows_readMember (overflows_evalChain functions owner h) property optional)
  | index owner key optional =>
    rw [evalChain]
    refine StopsIn.bind (overflows_evalChain functions owner h.left) fun receiver => ?_
    cases receiver with
    | none => exact .pure none
    | some v =>
      dsimp only
      split
      · exact .pure none
      · exact .bind (overflows_evalChain functions key h.right) fun k =>
          .bind (Eval.overflows_ofExcept readIndex_ne_listTooLong) fun v => .pure _
  | call callee args =>
    have hargs := overflows_evalList functions args h.right
    cases callee with
    | name n =>
      rw [evalChain]
      exact .bind hargs fun values => StopsIn.get_bind fun s =>
        .bind (Eval.overflows_ofExcept callFunction_ne_listTooLong) fun v => .pure (some v)
    | member owner property optional =>
      rw [evalChain_call_member]
      have howner := overflows_evalChain functions owner h.left
      have hplace := overflows_evalPlace functions owner h.left
      have hplain : (callInSpace functions owner property args
          (callOnOwner functions owner property optional args)).Overflows Q :=
        overflows_callInSpace hargs property (overflows_callOnOwner howner hargs property optional)
      dsimp only
      split
      · exact overflows_callAtPlace hplace hargs property hplain
      · exact hplain
    | _ =>
      rw [evalChain]
      · exact .throw nofun
      all_goals simp
  | unary op operand =>
    have hplain : Eval.Overflows Q (do
        return some (op.apply ((← evalChain functions operand).getD .null))) :=
      .bind (overflows_evalChain functions operand h) fun v => .pure _
    cases operand with
    | name n =>
      rw [evalChain]
      refine StopsIn.get_bind fun s => ?_
      split
      · exact .pure _
      · exact hplain
    | _ =>
      rw [evalChain]
      · exact hplain
      all_goals simp
  | binary op left right =>
    rw [evalChain]
    exact .bind (overflows_evalChain functions left h.left) fun a =>
      .bind (overflows_evalChain functions right h.right) fun b => .pure _
  | logical op left right =>
    rw [evalChain]
    refine StopsIn.bind (overflows_evalChain functions left h.left) fun a => ?_
    dsimp only
    split
    · exact .pure _
    · exact .bind (overflows_evalChain functions right h.right) fun b => .pure _
  | choice test yes no =>
    rw [evalChain]
    refine StopsIn.bind (overflows_evalChain functions test h.left) fun v => ?_
    split
    · exact .bind (overflows_evalChain functions yes h.right.left) fun v => .pure _
    · exact .bind (overflows_evalChain functions no h.right.right) fun v => .pure _
  | assign target op value =>
    obtain ⟨htarget, hparts⟩ := List.forall_mem_cons.1 h
    have hparts : Covers functions Q (target.targets ++ value.targets) := hparts
    have hwrite (v : Value) :=
      overflows_assignToPlace (overflows_evalPlace functions target hparts.left) htarget v
    cases op with
    | none =>
      rw [evalChain]
      refine .bind (overflows_evalChain functions value hparts.right) fun v => ?_
      rw [← bind_assoc]
      exact .bind (hwrite _) fun _ => .pure _
    | some op =>
      rw [evalChain]
      refine .bind (overflows_evalChain functions target hparts.left) fun a =>
        .bind (overflows_evalChain functions value hparts.right) fun b => ?_
      rw [← bind_assoc]
      exact .bind (hwrite _) fun _ => .pure _
  | update target direction before =>
    obtain ⟨htarget, hparts⟩ := List.forall_mem_cons.1 h
    rw [evalChain]
    refine .bind (overflows_evalChain functions target hparts) fun v => ?_
    rw [← bind_assoc]
    exact .bind (overflows_assignToPlace (overflows_evalPlace functions target hparts) htarget _)
      fun _ => .pure _

/-- So do lists of expressions. -/
theorem overflows_evalList (functions : Functions) (es : List Expr)
    (h : Covers functions Q (Expr.listTargets es)) : (evalList functions es).Overflows Q := by
  cases es with
  | nil => exact .pure []
  | cons e rest =>
    exact .bind (overflows_evalChain functions e h.left) fun v =>
      .bind (overflows_evalList functions rest h.right) fun vs => .pure _

/-- So do the members of an object. -/
theorem overflows_evalEntries (functions : Functions) (fields : Fields Value)
    (es : List (String × Expr)) (h : Covers functions Q (Expr.entriesTargets es)) :
    (evalEntries functions fields es).Overflows Q := by
  cases es with
  | nil => exact .pure fields
  | cons entry rest =>
    obtain ⟨k, e⟩ := entry
    exact .bind (overflows_evalChain functions e h.left) fun v =>
      overflows_evalEntries functions _ rest h.right

/-- So do places. -/
theorem overflows_evalPlace (functions : Functions) (e : Expr)
    (h : Covers functions Q e.targets) : (evalPlace functions e).Overflows Q := by
  cases e with
  | name n => exact .pure _
  | member owner property optional =>
    refine StopsIn.bind (overflows_evalPlace functions owner h) fun place => ?_
    cases place <;> exact .pure _
  | index owner key optional =>
    refine StopsIn.bind (overflows_evalPlace functions owner h.left) fun place => ?_
    cases place with
    | none => exact .pure none
    | some place =>
      exact .bind (overflows_evalChain functions key h.right) fun v => .pure _
  | _ => exact .pure none

end

/-- So do expressions of which the chain may be cut short. -/
theorem overflows_eval (functions : Functions) (e : Expr) (h : Covers functions Q e.targets) :
    (eval functions e).Overflows Q :=
  .bind (overflows_evalChain functions e h) fun _ => .pure _

/-! ## Execution -/

/-- An expression as a statement fails at a target of it. -/
lemma overflows_discard {e : Expr} (h : Covers functions Q e.targets) :
    (Run.ofEval (discard (eval functions e))).Overflows Q := by
  refine Run.overflows_ofEval ?_
  show Eval.Overflows Q (Function.const Value () <$> eval functions e)
  rw [map_eq_pure_bind]
  exact (overflows_eval functions e h).bind fun _ => .pure ()

/-- So does a condition. -/
lemma overflows_test {e : Expr} (h : Covers functions Q e.targets) :
    (test functions e).Overflows Q :=
  Run.overflows_ofEval ((overflows_eval functions e h).bind fun _ => .pure _)

/-- So does a condition that may be missing. -/
lemma overflows_testOptional {e : Option Expr}
    (h : Covers functions Q (Expr.optionTargets e)) : (testOptional functions e).Overflows Q := by
  cases e with
  | none => exact .pure true
  | some e => exact overflows_test h

/-- A declaration fails at a target of its value. -/
lemma overflows_declare {kind : DeclKind} {name : String} {value : Option Expr}
    (h : Covers functions Q (Expr.optionTargets value)) :
    (declare functions kind name value).Overflows Q := by
  have hbind (v : Value) : (declare.bind kind name v).Overflows Q := nofun
  cases value with
  | none =>
    refine StopsIn.get_bind fun s => ?_
    split
    · exact .pure ()
    · exact hbind .null
  | some e => exact (overflows_eval functions e h).bind hbind

/-- So do declarations one after the other. -/
lemma overflows_declareAll {kind : DeclKind} {declarations : List (String × Option Expr)}
    (h : Covers functions Q (declarations.flatMap fun d => Expr.optionTargets d.2)) :
    (declareAll functions kind declarations).Overflows Q := by
  induction declarations with
  | nil => exact .pure ()
  | cons d rest ih =>
    rw [List.flatMap_cons] at h
    exact (overflows_declare h.left).bind fun _ => ih h.right

/-- A body for every value of a list fails where the body does. -/
lemma overflows_forBinding (hQ : Unwinds Q) {binding : String} {body : Run Unit}
    (h : body.Overflows Q) (values : List Value) : (forBinding binding body values).Overflows Q :=
  StopsIn.forEach (fun _ => Run.overflows_inFrame hQ _ h) values

mutual

/-- **A statement fails for the length of a list** only where one of its targets has overflowed.

**Proof sketch.** Induction on the statement.  Each part of it fails only at targets of its own,
which are among those of the statement, and leaving a frame does not matter for `Q`. -/
theorem overflows_exec (hQ : Unwinds Q) (functions : Functions) (fuel : Nat) (stmt : Stmt)
    (h : Covers functions Q stmt.targets) : (exec functions fuel stmt).Overflows Q := by
  cases stmt with
  | empty =>
    rw [exec]
    exact .pure ()
  | expr e =>
    rw [exec]
    exact overflows_discard h
  | declare kind declarations =>
    rw [exec]
    exact Run.overflows_ofEval (overflows_declareAll h)
  | block body =>
    rw [exec]
    exact Run.overflows_inFrame hQ {} (overflows_execList hQ functions fuel body h)
  | branch condition yes no =>
    rw [exec]
    refine StopsIn.bind (overflows_test h.left) fun holds => ?_
    cases holds with
    | true => exact overflows_exec hQ functions fuel yes h.right.left
    | false => exact overflows_exec hQ functions fuel no h.right.right
  | whileLoop condition body =>
    rw [exec]
    exact .loop (overflows_test h.left) (overflows_exec hQ functions fuel body h.right) fuel
  | forOf binding iterable body =>
    rw [exec]
    refine .bind (Run.overflows_ofEval (overflows_eval functions iterable h.left)) fun v => ?_
    have helements := Eval.overflows_ofExcept (Q := Q) (elementsOf_ne_listTooLong (v := v))
    refine .bind (Run.overflows_ofEval helements) fun items => ?_
    exact overflows_forBinding hQ (overflows_exec hQ functions fuel body h.right) items
  | forIn binding owner body =>
    rw [exec]
    refine .bind (Run.overflows_ofEval (overflows_eval functions owner h.left)) fun v => ?_
    exact overflows_forBinding hQ (overflows_exec hQ functions fuel body h.right) v.keys
  | forLoop start condition update body =>
    have hbegin := overflows_exec hQ functions fuel start h.left
    have hturn := overflows_exec hQ functions fuel body h.right.right.right
    have htest := overflows_testOptional h.right.left
    cases update with
    | none =>
      rw [exec]
      exact Run.overflows_inFrame hQ {} (hbegin.bind fun _ =>
        .loop htest (hturn.bind fun _ => .pure ()) fuel)
    | some e =>
      rw [exec]
      exact Run.overflows_inFrame hQ {} (hbegin.bind fun _ =>
        .loop htest (hturn.bind fun _ => overflows_discard h.right.right.left) fuel)

/-- Statements fail for the length of a list only where one of their targets has overflowed. -/
theorem overflows_execList (hQ : Unwinds Q) (functions : Functions) (fuel : Nat) (body : List Stmt)
    (h : Covers functions Q (Stmt.listTargets body)) :
    (execList functions fuel body).Overflows Q := by
  cases body with
  | nil => exact .pure ()
  | cons stmt rest =>
    exact (overflows_exec hQ functions fuel stmt h.left).bind fun _ =>
      overflows_execList hQ functions fuel rest h.right

end

/-! ## Fragments -/

/-- Code that cannot be read fails in another way. -/
lemma unreadable_ne_listTooLong {α : Type} (r : Except ReadFault α) (code : String) :
    (r.mapError fun fault => .unreadable fault code) ≠ .error Fault.listTooLong := by
  cases r <;> nofun

/-- **How lists grow.**

1. When an element of a list is set, a key that is no whole number is refused.  A whole number
   stands for a position, which has a successor in 64 bits if and only if the number is below 2⁶⁴.
   At a position that the list holds, or that is below the greatest length that a list can grow to,
   the list is then long enough, holds the value there, and keeps its other elements, with nothing
   in between.  At every other position this fails for the length of the list.
2. So an assignment to a place fails for the length of a list if and only if it sets an element at
   such a position in a list that is there.
3. Fragments of code, statements and expressions, fail for it only there: one of the targets in the
   fragment has just denoted such an element, in the scope that is left, up to inner frames.

**Proof sketch.** The largest position is no double (`Value.whole?_ne_maxPosition`), but it stands
for all positions that are larger.  Nothing but an assignment fails for the length of a list
(`overflows_evalChain`, `overflows_exec`). -/
theorem lists_grow (functions : Functions) (code : String) (s t : Scope) :
    (∀ (items : List Value) (key value : Value),
      (key.whole? = none →
        Value.setIndex (.list items) key value = .error (.type (.invalidIndex key.toText))) ∧
      (∀ n, key.whole? = some n → ∃ i, key.arrayIndex? = some i ∧ (i + 1 < 2 ^ 64 ↔ n < 2 ^ 64) ∧
        (n < 2 ^ 64 → i = n)) ∧
      (∀ i, key.arrayIndex? = some i → i < items.length ∨ i < Value.maxLength →
        ∃ after, Value.setIndex (.list items) key value = .ok (.list after) ∧
          after.length = max items.length (i + 1) ∧ after[i]? = some value ∧
          ∀ j, j ≠ i → j < after.length → after[j]? = some (items[j]?.getD .null)) ∧
      (Value.OutOfReach items key →
        Value.setIndex (.list items) key value = .error .listTooLong)) ∧
    (∀ (root : String) (keys : List Value) (value : Value),
      s.assignAt root keys value = .error .listTooLong ↔
        ∃ parents last items, keys = parents ++ [last] ∧
          s.at? root parents = some (.list items) ∧ Value.OutOfReach items last) ∧
    (∀ fuel, (Evaluator.script functions).execute fuel code s =
        (.error (.fault .listTooLong), t) →
      ∃ body, Stmt.listOfText code = .ok body ∧
        ∃ target ∈ Stmt.listTargets body, Overflowed functions target t) ∧
    ((Evaluator.script functions).evaluate code s = (.error .listTooLong, t) →
      ∃ e, Expr.ofText code = .ok e ∧ ∃ target ∈ e.targets, Overflowed functions target t) := by
  refine ⟨fun items key value => ⟨fun h => ?_, fun n h => ?_, fun i hkey hi => ?_, fun h => ?_⟩,
    fun root keys value => Scope.assignAt_eq_listTooLong_iff, fun fuel h => ?_, fun h => ?_⟩
  · exact Value.setIndex_list_of_none (Value.arrayIndex?_eq_none h) value
  · have hposition : Value.maxPosition = 2 ^ 64 - 1 := rfl
    obtain ⟨hkey, hsuccessor⟩ := Value.arrayIndex?_of_whole? h
    exact ⟨_, hkey, hsuccessor, by omega⟩
  · exact Value.setIndex_list hkey hi value
  · exact h.setIndex_list value
  · unfold Evaluator.script at h
    dsimp only at h
    cases hread : Stmt.listOfText code with
    | error fault =>
      rw [hread] at h
      cases h
      exact absurd hread (unreadable_ne_listTooLong _ code)
    | ok body =>
      rw [hread] at h
      exact ⟨body, rfl, overflows_execList (Unwinds.of_overflowed functions _) functions fuel body
        (Covers.of_overflowed functions _) h⟩
  · unfold Evaluator.script at h
    dsimp only at h
    cases hread : Expr.ofText code with
    | error fault =>
      rw [hread] at h
      cases h
      exact absurd hread (unreadable_ne_listTooLong _ code)
    | ok e =>
      rw [hread] at h
      exact ⟨e, rfl, overflows_eval functions e (Covers.of_overflowed functions _) h⟩

/-- A list grows to hold its third element. -/
theorem lists_grow_third :
    let key : Value := .ofNat 2
    key.arrayIndex? = some 2 ∧ ∃ after, Value.setIndex (.list [.null]) key (.bool true) =
        .ok (.list after) ∧ after.length = 3 ∧ after[2]? = some (.bool true) ∧
      after[0]? = some .null ∧ after[1]? = some .null := by
  intro key
  have hkey : key.arrayIndex? = some 2 := by decide +kernel
  have hreach : 2 < Value.maxLength := by decide
  obtain ⟨after, hafter, hlength, hset, hothers⟩ :=
    ((lists_grow [] "" {} {}).1 [.null] key (.bool true)).2.2.1 2 hkey (.inr hreach)
  exact ⟨hkey, after, hafter, hlength, hset, hothers 0 (by decide) (by omega),
    hothers 1 (by decide) (by omega)⟩

/-- **A fragment that fails for the length of a list.**  The double nearest to 2⁶⁴ - 1 is 2⁶⁴. -/
theorem lists_grow_beyond :
    let code := "a[18446744073709551615]=1"
    let s : Scope := { globals := [("a", .list [])] }
    (Evaluator.script []).execute 0 code s = (.error (.fault .listTooLong), s) := by
  intro code s
  let index := Value.ofFloat (Decimal.nearest 18446744073709551615 0)
  let one := Value.ofFloat (Decimal.nearest 1 0)
  have hkey : index.arrayIndex? = some Value.maxPosition := by decide +kernel
  have htokens : Token.ofChars "a[18446744073709551615]=1".toList =
      .ok [.word "a", .symbol .openBracket, .number (Decimal.nearest 18446744073709551615 0),
        .symbol .closeBracket, .symbol .assign, .number (Decimal.nearest 1 0)] :=
    open Token in
    ofChars_cons_ok (some (.word "a")) (by rfl) <|
    ofChars_cons_ok (some (.symbol .openBracket)) (by rfl) <|
    ofChars_cons_ok (some (.number (Decimal.nearest 18446744073709551615 0))) (by rfl) <|
    ofChars_cons_ok (some (.symbol .closeBracket)) (by rfl) <|
    ofChars_cons_ok (some (.symbol .assign)) (by rfl) <|
    ofChars_cons_ok (some (.number (Decimal.nearest 1 0))) (by rfl) ofChars_nil
  let assignment : Expr :=
    .assign (.index (.name "a") (.literal index) false) none (.literal one)
  have hread : Stmt.listOfText code = .ok [.expr assignment] := by
    rw [Stmt.listOfText, htokens]
    rfl
  have hassign : s.assignAt "a" [index] one = .error .listTooLong :=
    Scope.assignAt_eq_listTooLong_iff.2
      ⟨[], index, [], rfl, rfl, Value.maxPosition, hkey, Nat.zero_le _, by decide⟩
  have hwrite : assignTo (some ("a", [index])) one s = (.error .listTooLong, s) := by
    rw [assignTo, hassign]
  have hvalue : eval [] assignment s = (.error .listTooLong, s) := by
    have hplace : evalPlace [] (.index (.name "a") (.literal index) false) s =
        (.ok (some ("a", [index])), s) := rfl
    have hone : evalChain [] (.literal one) s = (.ok (some one), s) := rfl
    rw [eval, evalChain, Process.bind_apply, Process.bind_apply_ok hone]
    dsimp only [Option.getD_some]
    rw [Process.bind_apply_ok hplace, Process.bind_apply, hwrite]
  have hstatement : exec [] 0 (.expr assignment) s = (.error (.fault .listTooLong), s) := by
    rw [exec]
    show Run.ofEval (Function.const Value () <$> eval [] assignment) s = _
    rw [map_eq_pure_bind, Run.ofEval, Process.bind_apply, hvalue]
  unfold Evaluator.script
  dsimp only
  rw [hread]
  show execList [] 0 [.expr assignment] s = _
  rw [execList, Process.bind_apply, hstatement]

end Script

end Stencil
