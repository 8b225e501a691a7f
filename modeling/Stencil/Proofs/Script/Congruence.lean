import Stencil.Proofs.Process.Simulation
import Stencil.Script.Exec

/-!
# Scopes that code cannot tell apart

Code reaches the bindings in few ways: it reads a name, assigns one, declares one, and runs a body
in a frame of its own.  A relation between scopes that all of these keep is kept by all code.  One
that only some declarations keep is kept by the code that makes no others, and one that only some
assignments keep by the expressions that write no other names.

## Main definitions

* `Stencil.Script.Expr.isReadOnly` — whether an expression assigns and changes nothing.
* `Stencil.Script.Expr.written` — the names that an expression writes.
* `Stencil.Script.Scope.Reading` — a relation that reading names keeps.
* `Stencil.Script.Scope.Congruence` — a relation that reading and assigning names keep.
* `Stencil.Script.Stmt.declaresOnly` — whether a statement declares no more than is allowed.
* `Stencil.Script.Scope.GuardedCongruence` — a family of relations, one for each nesting of frames,
  that frames keep as well, and declarations as far as they are allowed.
* `Stencil.Script.Scope.FrameCongruence` — such a family that all declarations keep.

## Main results

* `Stencil.Script.Scope.Reading.evalChain_of_written` — expressions keep what reading keeps, and
  assignments to the names that they write.
* `Stencil.Script.Scope.Reading.evalChain` — expressions that only read keep what reading keeps.
* `Stencil.Script.Scope.Congruence.evalChain`, `eval` — expressions keep a congruence.
* `Stencil.Script.Scope.GuardedCongruence.exec`, `execList` — statements that declare no more than
  is allowed keep a guarded congruence.
* `Stencil.Script.Scope.FrameCongruence.execList` — all statements keep a frame congruence.

## Design

The relations in a family are indexed by whatever they have to know of the frames; entering a frame
changes the index, and leaving it changes it back.  Nothing is said of how deep the scopes are, so
related scopes may have different numbers of frames.
-/

set_option relaxedAutoImplicit false
set_option autoImplicit false

namespace Stencil.Script

open Process (Simulates Keeps)

/-! ## Members and methods -/

/-- A member by name read of the value of its owner. -/
def readMember (functions : Functions) (owner : Expr) (property : String) (optional : Bool) :
    Eval (Option Value) := do
  match ← evalChain functions owner with
  | none => return none
  | some v =>
    if optional && v.isNull then return none
    return some (← Eval.ofExcept (v.getProperty property))

/-- A constant of a namespace, where the owner of a member names one; otherwise something
else. -/
def constantOr (owner : Expr) (property : String) (otherwise : Eval (Option Value)) :
    Eval (Option Value) := do
  match owner with
  | .name space =>
    match constant? (← get) space property with
    | some v => return some v
    | none => otherwise
  | _ => otherwise

/-- The two ways in which a member is read, tried one after the other. -/
lemma evalChain_member (functions : Functions) (owner : Expr) (property : String)
    (optional : Bool) :
    evalChain functions (.member owner property optional) =
      constantOr owner property (readMember functions owner property optional) := by
  simp only [evalChain, constantOr, readMember]
  cases owner with
  | name space =>
    dsimp only
    congr 1
    funext s
    cases constant? s space property <;> rfl
  | _ => rfl

/-- A method called on the value of its owner. -/
def callOnOwner (functions : Functions) (owner : Expr) (property : String) (optional : Bool)
    (args : List Expr) : Eval (Option Value) := do
  match ← evalChain functions owner with
  | none => return none
  | some receiver =>
    if optional && receiver.isNull then return none
    let args ← evalList functions args
    return some (← Eval.ofExcept (callMethod receiver property args))

/-- A function of a namespace called, where the owner of a method names one; otherwise something
else. -/
def callInSpace (functions : Functions) (owner : Expr) (property : String) (args : List Expr)
    (otherwise : Eval (Option Value)) : Eval (Option Value) := do
  match owner with
  | .name space =>
    if isNamespace (← get) space then
      let args ← evalList functions args
      return some (← Eval.ofExcept (callStatic space property args))
    otherwise
  | _ => otherwise

/-- A method that changes a list called at the place that its owner denotes, where there is a
list; otherwise something else. -/
def callAtPlace (functions : Functions) (owner : Expr) (property : String) (args : List Expr)
    (otherwise : Eval (Option Value)) : Eval (Option Value) := do
  match ← evalPlace functions owner with
  | none => otherwise
  | some (root, keys) =>
    let args ← evalList functions args
    match ← changeAt root keys property args with
    | some v => return some v
    | none => otherwise

/-- The three ways in which a method is called, tried one after the other. -/
lemma evalChain_call_member (functions : Functions) (owner : Expr) (property : String)
    (optional : Bool) (args : List Expr) :
    evalChain functions (.call (.member owner property optional) args) =
      let plain := callInSpace functions owner property args
        (callOnOwner functions owner property optional args)
      if isChanging property then callAtPlace functions owner property args plain else plain := by
  simp only [evalChain, callAtPlace, callInSpace, callOnOwner]
  split
  · congr 1
    funext place
    cases place with
    | none => rfl
    | some place =>
      dsimp only
      congr 1
      funext values
      congr 1
      funext result
      cases result <;> rfl
  · rfl

/-! ## Expressions that only read -/

/-- Whether an expression is the name of a changing method on the value of its owner. -/
def Expr.isChangingMethod : Expr → Bool
  | .member _ property _ => isChanging property
  | _ => false

mutual

/-- **Whether an expression only reads:** nowhere in it is anything assigned, counted, or called
that changes a list. -/
def Expr.isReadOnly : Expr → Bool
  | .literal _ => true
  | .name _ => true
  | .list items => Expr.listIsReadOnly items
  | .object entries => Expr.entriesAreReadOnly entries
  | .member owner _ _ => owner.isReadOnly
  | .index owner key _ => owner.isReadOnly && key.isReadOnly
  | .call callee args =>
    !callee.isChangingMethod && (callee.isReadOnly && Expr.listIsReadOnly args)
  | .unary _ operand => operand.isReadOnly
  | .binary _ left right => left.isReadOnly && right.isReadOnly
  | .logical _ left right => left.isReadOnly && right.isReadOnly
  | .choice test yes no => test.isReadOnly && (yes.isReadOnly && no.isReadOnly)
  | .assign _ _ _ => false
  | .update _ _ _ => false

/-- Whether expressions only read. -/
def Expr.listIsReadOnly : List Expr → Bool
  | [] => true
  | e :: rest => e.isReadOnly && Expr.listIsReadOnly rest

/-- Whether the members of an object only read. -/
def Expr.entriesAreReadOnly : List (String × Expr) → Bool
  | [] => true
  | (_, e) :: rest => e.isReadOnly && Expr.entriesAreReadOnly rest

end

/-! ## The names that expressions write -/

/-- The name that a place begins with, if an expression denotes a place. -/
def Expr.root? : Expr → Option String
  | .name n => some n
  | .member owner _ _ => owner.root?
  | .index owner _ _ => owner.root?
  | _ => none

/-- The name that a call writes, given what is called: that of the place which a method changes,
if it does. -/
def Expr.changed : Expr → List String
  | .member owner property _ => if isChanging property then owner.root?.toList else []
  | _ => []

mutual

/-- **The names that an expression writes:** those that are assigned or counted, or whose values are
changed in place. -/
def Expr.written : Expr → List String
  | .literal _ => []
  | .name _ => []
  | .list items => Expr.listWritten items
  | .object entries => Expr.entriesWritten entries
  | .member owner _ _ => owner.written
  | .index owner key _ => owner.written ++ key.written
  | .call callee args => callee.changed ++ (callee.written ++ Expr.listWritten args)
  | .unary _ operand => operand.written
  | .binary _ left right => left.written ++ right.written
  | .logical _ left right => left.written ++ right.written
  | .choice test yes no => test.written ++ (yes.written ++ no.written)
  | .assign target _ value => target.root?.toList ++ (target.written ++ value.written)
  | .update target _ _ => target.root?.toList ++ target.written

/-- The names that expressions write. -/
def Expr.listWritten : List Expr → List String
  | [] => []
  | e :: rest => e.written ++ Expr.listWritten rest

/-- The names that the members of an object write. -/
def Expr.entriesWritten : List (String × Expr) → List String
  | [] => []
  | (_, e) :: rest => e.written ++ Expr.entriesWritten rest

end

mutual

/-- What only reads writes no names.

**Proof sketch.** Induction on the expression, together with its lists of elements and entries.  The
targets of assignments are excluded, and so are the methods that change what they are called on. -/
lemma Expr.written_of_isReadOnly {e : Expr} (h : e.isReadOnly = true) : e.written = [] := by
  cases e with
  | literal v => rfl
  | name n => rfl
  | list items => exact listWritten_of_isReadOnly h
  | object entries => exact entriesWritten_of_isReadOnly h
  | member owner property optional => exact written_of_isReadOnly (e := owner) h
  | index owner key optional =>
    obtain ⟨howner, hkey⟩ := Bool.and_eq_true_iff.1 h
    rw [written, written_of_isReadOnly howner, written_of_isReadOnly hkey, List.nil_append]
  | call callee args =>
    obtain ⟨hmethod, hparts⟩ := Bool.and_eq_true_iff.1 h
    obtain ⟨hcallee, hargs⟩ := Bool.and_eq_true_iff.1 hparts
    have hchanged : callee.changed = [] := by
      cases callee with
      | member owner property optional =>
        rw [changed, if_neg (by simpa [isChangingMethod] using hmethod)]
      | _ => rfl
    rw [written, hchanged, written_of_isReadOnly hcallee, listWritten_of_isReadOnly hargs,
      List.nil_append, List.nil_append]
  | unary op operand => exact written_of_isReadOnly (e := operand) h
  | binary op left right =>
    obtain ⟨hleft, hright⟩ := Bool.and_eq_true_iff.1 h
    rw [written, written_of_isReadOnly hleft, written_of_isReadOnly hright, List.nil_append]
  | logical op left right =>
    obtain ⟨hleft, hright⟩ := Bool.and_eq_true_iff.1 h
    rw [written, written_of_isReadOnly hleft, written_of_isReadOnly hright, List.nil_append]
  | choice test yes no =>
    obtain ⟨htest, hparts⟩ := Bool.and_eq_true_iff.1 h
    obtain ⟨hyes, hno⟩ := Bool.and_eq_true_iff.1 hparts
    rw [written, written_of_isReadOnly htest, written_of_isReadOnly hyes,
      written_of_isReadOnly hno, List.nil_append, List.nil_append]
  | assign target op value => cases h
  | update target direction before => cases h

/-- Nor do expressions of which each only reads. -/
lemma Expr.listWritten_of_isReadOnly {es : List Expr} (h : Expr.listIsReadOnly es = true) :
    Expr.listWritten es = [] := by
  cases es with
  | nil => rfl
  | cons e rest =>
    obtain ⟨he, hrest⟩ := Bool.and_eq_true_iff.1 h
    rw [listWritten, written_of_isReadOnly he, listWritten_of_isReadOnly hrest, List.nil_append]

/-- Nor do members of an object of which each only reads. -/
lemma Expr.entriesWritten_of_isReadOnly {es : List (String × Expr)}
    (h : Expr.entriesAreReadOnly es = true) : Expr.entriesWritten es = [] := by
  cases es with
  | nil => rfl
  | cons entry rest =>
    obtain ⟨k, e⟩ := entry
    obtain ⟨he, hrest⟩ := Bool.and_eq_true_iff.1 h
    rw [entriesWritten, written_of_isReadOnly he, entriesWritten_of_isReadOnly hrest,
      List.nil_append]

end

/-- A place begins with the name at its root.

**Proof sketch.** Induction on the expression.  A member and an element lie at the root of their
owner. -/
lemma root?_of_evalPlace {functions : Functions} {e : Expr} {s : Scope}
    {place : String × List Value} (h : (evalPlace functions e s).1 = .ok (some place)) :
    e.root? = some place.1 := by
  cases e with
  | name n =>
    cases h
    rfl
  | member owner property optional =>
    rw [evalPlace, Process.bind_apply] at h
    rcases howner : evalPlace functions owner s with ⟨f | _ | before, t⟩ <;> rw [howner] at h
    · cases h
    · cases h
    · have hroot : owner.root? = some before.1 := root?_of_evalPlace (congrArg Prod.fst howner)
      cases h
      exact hroot
  | index owner key optional =>
    rw [evalPlace, Process.bind_apply] at h
    rcases howner : evalPlace functions owner s with ⟨f | _ | before, t⟩ <;> rw [howner] at h
    · cases h
    · cases h
    · have hroot : owner.root? = some before.1 := root?_of_evalPlace (congrArg Prod.fst howner)
      dsimp only at h
      rw [Process.bind_apply] at h
      rcases hkey : evalChain functions key t with ⟨f | k, u⟩ <;> rw [hkey] at h <;> cases h
      exact hroot
  | _ => cases h

/-! ## What any relation is kept by -/

section Any

variable {R : Scope → Scope → Prop}

/-- What does not look at the scope keeps every relation. -/
lemma Eval.keeps_ofExcept {α : Type} (r : Except Fault α) : Keeps R (Eval.ofExcept r) :=
  Keeps.of_forall fun _ _ h => ⟨rfl, h⟩

/-- A computation as a run keeps what the computation keeps. -/
lemma Run.keeps_ofEval {α : Type} {x : Eval α} (hx : Keeps R x) : Keeps R (Run.ofEval x) := by
  apply Keeps.of_forall
  intro s t h
  have ho := hx.outcome_eq h
  have hst := (hx h).2
  simp only [Run.ofEval]
  rcases hs : x s with ⟨_ | _, s'⟩ <;> rcases ht : x t with ⟨_ | _, t'⟩ <;> simp_all

variable {functions : Functions} {owner : Expr} {args : List Expr}
  (howner : Keeps R (Script.evalChain functions owner))
  (hargs : Keeps R (Script.evalList functions args))

include howner

/-- Reading a member keeps what its owner keeps. -/
lemma keeps_readMember (property : String) (optional : Bool) :
    Keeps R (readMember functions owner property optional) := by
  refine Simulates.bind howner fun receiver => ?_
  cases receiver with
  | none => exact .pure none
  | some v =>
    dsimp only
    split
    · exact .pure none
    · exact .bind (Eval.keeps_ofExcept _) fun v => .pure (some v)

include hargs

/-- Calling a method keeps what its owner and its arguments keep. -/
lemma keeps_callOnOwner (property : String) (optional : Bool) :
    Keeps R (callOnOwner functions owner property optional args) := by
  refine Simulates.bind howner fun receiver => ?_
  cases receiver with
  | none => exact .pure none
  | some v =>
    dsimp only
    split
    · exact .pure none
    · exact .bind hargs fun values => .bind (Eval.keeps_ofExcept _) fun v => .pure (some v)

end Any

/-! ## Reading -/

namespace Scope

/-- **A relation between scopes that reading names keeps.** -/
structure Reading (R : Scope → Scope → Prop) : Prop where
  /-- A name is bound to the same value. -/
  get?_eq : ∀ ⦃s t⦄, R s t → ∀ name, s.get? name = t.get? name

/-- **A relation between scopes that reading and assigning names keep.** -/
structure Congruence (R : Scope → Scope → Prop) : Prop extends Reading R where
  /-- An assignment keeps the relation. -/
  assign : ∀ ⦃s t⦄, R s t → ∀ name value, R (s.assign name value) (t.assign name value)

variable {R : Scope → Scope → Prop}

namespace Reading

variable (hR : Reading R) {s t : Scope}

include hR

/-- The same names are bound. -/
lemma contains_eq (h : R s t) (name : String) : s.contains name = t.contains name := by
  rw [contains, contains, hR.get?_eq h]

/-- The same names are namespaces. -/
lemma isNamespace_eq (h : R s t) (name : String) : isNamespace s name = isNamespace t name := by
  rw [isNamespace, isNamespace, hR.contains_eq h]

/-- Namespaces have the same constants. -/
lemma constant?_eq (h : R s t) (space property : String) :
    constant? s space property = constant? t space property := by
  rw [constant?, constant?, hR.isNamespace_eq h]

/-- Calls by name give the same. -/
lemma callFunction_eq (h : R s t) (functions : Functions) (name : String) (args : List Value) :
    callFunction functions s name args = callFunction functions t name args := by
  rw [callFunction, callFunction, hR.contains_eq h]

/-- The same values are at the same places. -/
lemma at?_eq (h : R s t) (root : String) (keys : List Value) :
    s.at? root keys = t.at? root keys := by
  rw [at?, at?, hR.get?_eq h]

/-- Reading a name keeps the relation. -/
lemma readName (name : String) : Keeps R (readName name) := by
  apply Keeps.of_forall
  intro s t h
  simp only [Script.readName, hR.get?_eq h]
  split <;> exact ⟨rfl, h⟩

variable {functions : Functions} {owner : Expr} {args : List Expr}

/-- A constant of a namespace keeps the relation. -/
lemma constantOr (property : String) {otherwise : Eval (Option Value)}
    (hotherwise : Keeps R otherwise) : Keeps R (constantOr owner property otherwise) := by
  cases owner with
  | name space =>
    refine Keeps.get_bind (fun s t h => by rw [hR.constant?_eq h]) fun s => ?_
    split
    · exact .pure (some _)
    · exact hotherwise
  | _ => exact hotherwise

/-- A function of a namespace keeps what its arguments keep. -/
lemma callInSpace (hargs : Keeps R (Script.evalList functions args)) (property : String)
    {otherwise : Eval (Option Value)} (hotherwise : Keeps R otherwise) :
    Keeps R (callInSpace functions owner property args otherwise) := by
  cases owner with
  | name space =>
    refine Keeps.get_bind (fun s t h => by rw [hR.isNamespace_eq h]) fun s => ?_
    split
    · exact .bind hargs fun values => .bind (Eval.keeps_ofExcept _) fun v => .pure (some v)
    · exact hotherwise
  | _ => exact hotherwise

end Reading

/-! ## Assigning -/

/-- A relation that assignments to a name keep. -/
def Assigns (R : Scope → Scope → Prop) (name : String) : Prop :=
  ∀ ⦃s t⦄, R s t → ∀ value, R (s.assign name value) (t.assign name value)

namespace Reading

section Places

variable (hR : Reading R) {root : String}

include hR

/-- A value put at a place keeps the relation. -/
lemma putAt (hroot : Assigns R root) {s t : Scope} (h : R s t) (keys : List Value)
    (value : Value) : R (s.putAt root keys value) (t.putAt root keys value) := by
  unfold Scope.putAt
  rw [hR.get?_eq h]
  cases t.get? root with
  | none => exact h
  | some v => exact hroot h _

/-- An assignment to a place keeps the relation, or fails alike. -/
lemma assignTo {place : Option (String × List Value)} (hplace : ∀ p ∈ place, Assigns R p.1)
    (value : Value) : Keeps R (assignTo place value) := by
  apply Keeps.of_forall
  intro s t h
  rcases place with _ | ⟨root, keys⟩
  · exact ⟨rfl, h⟩
  · have hroot : Assigns R root := hplace (root, keys) rfl
    simp only [Script.assignTo, assignAt]
    cases keys.getLast? with
    | none => exact ⟨rfl, hroot h _⟩
    | some last =>
      simp only [hR.at?_eq h, hR.contains_eq h]
      cases t.at? root keys.dropLast with
      | none => cases t.contains root <;> exact ⟨rfl, h⟩
      | some parent =>
        dsimp only
        cases parent.setIndex last value with
        | error f => exact ⟨rfl, h⟩
        | ok parent => exact ⟨rfl, hR.putAt hroot h _ _⟩

/-- A change of a list keeps the relation. -/
lemma changeAt (hroot : Assigns R root) (keys : List Value) (method : String)
    (args : List Value) : Keeps R (changeAt root keys method args) := by
  apply Keeps.of_forall
  intro s t h
  simp only [Script.changeAt, hR.at?_eq h]
  split
  · split
    · exact ⟨rfl, hR.putAt hroot h _ _⟩
    · exact ⟨rfl, h⟩
  · exact ⟨rfl, h⟩

variable {functions : Functions} {owner : Expr} {args : List Expr}

/-- A method that changes a list keeps the relation, if assignments to the name of its place do. -/
lemma callAtPlace (howner : ∀ name ∈ owner.root?, Assigns R name)
    (hplace : Keeps R (Script.evalPlace functions owner))
    (hargs : Keeps R (Script.evalList functions args)) (property : String)
    {otherwise : Eval (Option Value)} (hotherwise : Keeps R otherwise) :
    Keeps R (callAtPlace functions owner property args otherwise) := by
  refine Simulates.bind_of_ok hplace fun place s hs => ?_
  cases place with
  | none => exact hotherwise
  | some place =>
    have hroot : Assigns R place.1 := howner _ (root?_of_evalPlace hs)
    refine .bind hargs fun values => .bind (hR.changeAt hroot _ _ _) fun result => ?_
    cases result with
    | none => exact hotherwise
    | some v => exact .pure (some v)

/-- An assignment to the place that an expression denotes keeps the relation. -/
lemma assignToPlace (howner : ∀ name ∈ owner.root?, Assigns R name)
    (hplace : Keeps R (Script.evalPlace functions owner)) (value : Value) :
    Keeps R (do Script.assignTo (← Script.evalPlace functions owner) value) := by
  refine Simulates.bind_of_ok hplace fun place s hs => hR.assignTo ?_ value
  rintro p rfl
  exact howner _ (root?_of_evalPlace hs)

end Places

/-! ## Expressions -/

mutual

/-- **Expressions keep what reading keeps,** and assignments to the names that they write.

**Proof sketch.** Induction on the expression.  Every case is a sequence of parts that keep the
relation, and what is assigned or changed is at a place that begins with one of the names. -/
theorem evalChain_of_written (hR : Reading R) (functions : Functions) (e : Expr)
    (h : ∀ name ∈ e.written, Assigns R name) : Keeps R (Script.evalChain functions e) := by
  cases e with
  | literal v =>
    rw [Script.evalChain]
    exact .pure (some v)
  | name n =>
    rw [Script.evalChain]
    exact .bind (hR.readName n) fun v => .pure (some v)
  | list items =>
    rw [Script.evalChain]
    exact .bind (hR.evalList_of_written functions items h) fun values => .pure _
  | object entries =>
    rw [Script.evalChain]
    exact .bind (hR.evalEntries_of_written functions [] entries h) fun fields => .pure _
  | member owner property optional =>
    rw [evalChain_member]
    exact hR.constantOr property
      (keeps_readMember (hR.evalChain_of_written functions owner h) property optional)
  | index owner key optional =>
    obtain ⟨howner, hkey⟩ := List.forall_mem_append.1 h
    rw [Script.evalChain]
    refine Simulates.bind (hR.evalChain_of_written functions owner howner) fun receiver => ?_
    cases receiver with
    | none => exact .pure none
    | some v =>
      dsimp only
      split
      · exact .pure none
      · exact .bind (hR.evalChain_of_written functions key hkey) fun k =>
          .bind (Eval.keeps_ofExcept _) fun v => .pure _
  | call callee args =>
    obtain ⟨hchanged, hparts⟩ := List.forall_mem_append.1 h
    obtain ⟨hcallee, hargs⟩ := List.forall_mem_append.1 hparts
    have hvalues : Keeps R (Script.evalList functions args) :=
      hR.evalList_of_written functions args hargs
    cases callee with
    | name n =>
      rw [Script.evalChain]
      refine Simulates.bind hvalues fun values => ?_
      exact Keeps.get_bind (fun s t h => by rw [hR.callFunction_eq h])
        fun s => .bind (Eval.keeps_ofExcept _) fun v => .pure (some v)
    | member owner property optional =>
      rw [evalChain_call_member]
      have hplain : Keeps R (Script.callInSpace functions owner property args
          (callOnOwner functions owner property optional args)) :=
        hR.callInSpace hvalues property
          (keeps_callOnOwner (hR.evalChain_of_written functions owner hcallee) hvalues property
            optional)
      dsimp only
      split
      · next hchanging =>
        refine hR.callAtPlace (fun name hname => hchanged name ?_)
          (hR.evalPlace_of_written functions owner hcallee) hvalues property hplain
        rw [Expr.changed, if_pos hchanging]
        exact Option.mem_toList.2 hname
      · exact hplain
    | _ =>
      rw [Script.evalChain]
      · exact .throw _
      all_goals simp
  | unary op operand =>
    have hplain : Keeps R (do
        return some (op.apply ((← Script.evalChain functions operand).getD .null))) :=
      .bind (hR.evalChain_of_written functions operand h) fun v => .pure _
    cases operand with
    | name n =>
      rw [Script.evalChain]
      refine Keeps.get_bind (fun s t h => by rw [hR.contains_eq h]) fun s => ?_
      split
      · exact .pure _
      · exact hplain
    | _ =>
      rw [Script.evalChain]
      · exact hplain
      all_goals simp
  | binary op left right =>
    obtain ⟨hleft, hright⟩ := List.forall_mem_append.1 h
    rw [Script.evalChain]
    exact .bind (hR.evalChain_of_written functions left hleft) fun a =>
      .bind (hR.evalChain_of_written functions right hright) fun b => .pure _
  | logical op left right =>
    obtain ⟨hleft, hright⟩ := List.forall_mem_append.1 h
    rw [Script.evalChain]
    refine Simulates.bind (hR.evalChain_of_written functions left hleft) fun a => ?_
    dsimp only
    split
    · exact .pure _
    · exact .bind (hR.evalChain_of_written functions right hright) fun b => .pure _
  | choice test yes no =>
    obtain ⟨htest, hparts⟩ := List.forall_mem_append.1 h
    obtain ⟨hyes, hno⟩ := List.forall_mem_append.1 hparts
    rw [Script.evalChain]
    refine Simulates.bind (hR.evalChain_of_written functions test htest) fun v => ?_
    split
    · exact .bind (hR.evalChain_of_written functions yes hyes) fun v => .pure _
    · exact .bind (hR.evalChain_of_written functions no hno) fun v => .pure _
  | assign target op value =>
    obtain ⟨hroot, hparts⟩ := List.forall_mem_append.1 h
    obtain ⟨htarget, hvalue⟩ := List.forall_mem_append.1 hparts
    have hwrite (v : Value) :
        Keeps R (do Script.assignTo (← Script.evalPlace functions target) v) :=
      hR.assignToPlace (fun name hname => hroot name (Option.mem_toList.2 hname))
        (hR.evalPlace_of_written functions target htarget) v
    cases op with
    | none =>
      rw [Script.evalChain]
      refine .bind (hR.evalChain_of_written functions value hvalue) fun v => ?_
      rw [← bind_assoc]
      exact .bind (hwrite _) fun _ => .pure _
    | some op =>
      rw [Script.evalChain]
      refine .bind (hR.evalChain_of_written functions target htarget) fun a =>
        .bind (hR.evalChain_of_written functions value hvalue) fun b => ?_
      rw [← bind_assoc]
      exact .bind (hwrite _) fun _ => .pure _
  | update target direction before =>
    obtain ⟨hroot, htarget⟩ := List.forall_mem_append.1 h
    rw [Script.evalChain]
    refine .bind (hR.evalChain_of_written functions target htarget) fun v => ?_
    rw [← bind_assoc]
    exact .bind (hR.assignToPlace (fun name hname => hroot name (Option.mem_toList.2 hname))
      (hR.evalPlace_of_written functions target htarget) _) fun _ => .pure _

/-- So do lists of expressions. -/
theorem evalList_of_written (hR : Reading R) (functions : Functions) (es : List Expr)
    (h : ∀ name ∈ Expr.listWritten es, Assigns R name) :
    Keeps R (Script.evalList functions es) := by
  cases es with
  | nil => exact .pure []
  | cons e rest =>
    obtain ⟨he, hrest⟩ := List.forall_mem_append.1 h
    exact .bind (hR.evalChain_of_written functions e he) fun v =>
      .bind (hR.evalList_of_written functions rest hrest) fun vs => .pure _

/-- So do the members of an object. -/
theorem evalEntries_of_written (hR : Reading R) (functions : Functions) (fields : Fields Value)
    (es : List (String × Expr)) (h : ∀ name ∈ Expr.entriesWritten es, Assigns R name) :
    Keeps R (Script.evalEntries functions fields es) := by
  cases es with
  | nil => exact .pure fields
  | cons entry rest =>
    obtain ⟨k, e⟩ := entry
    obtain ⟨he, hrest⟩ := List.forall_mem_append.1 h
    exact .bind (hR.evalChain_of_written functions e he) fun v =>
      hR.evalEntries_of_written functions _ rest hrest

/-- So do places. -/
theorem evalPlace_of_written (hR : Reading R) (functions : Functions) (e : Expr)
    (h : ∀ name ∈ e.written, Assigns R name) : Keeps R (Script.evalPlace functions e) := by
  cases e with
  | name n => exact .pure _
  | member owner property optional =>
    refine Simulates.bind (hR.evalPlace_of_written functions owner h) fun place => ?_
    cases place <;> exact .pure _
  | index owner key optional =>
    obtain ⟨howner, hkey⟩ := List.forall_mem_append.1 h
    refine Simulates.bind (hR.evalPlace_of_written functions owner howner) fun place => ?_
    cases place with
    | none => exact .pure none
    | some place => exact .bind (hR.evalChain_of_written functions key hkey) fun v => .pure _
  | _ => exact .pure none

end

/-- Expressions keep what reading keeps, and assignments to the names that they write; also
where a chain was cut short. -/
theorem eval_of_written (hR : Reading R) (functions : Functions) (e : Expr)
    (h : ∀ name ∈ e.written, Assigns R name) : Keeps R (Script.eval functions e) :=
  .bind (hR.evalChain_of_written functions e h) fun _ => .pure _

/-- **Expressions that only read keep what reading keeps.** -/
theorem evalChain (hR : Reading R) (functions : Functions) (e : Expr) (h : e.isReadOnly = true) :
    Keeps R (Script.evalChain functions e) :=
  hR.evalChain_of_written functions e (by simp [Expr.written_of_isReadOnly h])

end Reading

namespace Congruence

/-- **Expressions keep a congruence.** -/
theorem evalChain (hR : Congruence R) (functions : Functions) (e : Expr) :
    Keeps R (Script.evalChain functions e) :=
  hR.toReading.evalChain_of_written functions e fun name _ _ _ hst => hR.assign hst name

/-- **Expressions keep a congruence,** also where a chain was cut short. -/
theorem eval (hR : Congruence R) (functions : Functions) (e : Expr) :
    Keeps R (Script.eval functions e) :=
  .bind (hR.evalChain functions e) fun _ => .pure _

end Congruence

/-! ## Declarations -/

/-- A scope with a name declared in the frame that the kind of declaration goes to. -/
def declareAs (s : Scope) (kind : DeclKind) (name : String) (value : Value) : Scope :=
  if kind = .var then s.declareVar name value else s.declare name value

end Scope

mutual

/-- **Whether a statement declares no more than is allowed:** a declaration is allowed for its kind
and for whether it is made in a frame of the statement's own. -/
def Stmt.declaresOnly (allowed : Bool → DeclKind → Bool) (inner : Bool) : Stmt → Bool
  | .empty => true
  | .expr _ => true
  | .declare kind _ => allowed inner kind
  | .block body => Stmt.listDeclaresOnly allowed true body
  | .branch _ yes no => yes.declaresOnly allowed inner && no.declaresOnly allowed inner
  -- The body of a `while` has a frame of its own only if it is a block.
  | .whileLoop _ body => body.declaresOnly allowed inner
  | .forOf _ _ body => body.declaresOnly allowed true
  | .forIn _ _ body => body.declaresOnly allowed true
  | .forLoop start _ _ body => start.declaresOnly allowed true && body.declaresOnly allowed true

/-- Whether statements declare no more than is allowed. -/
def Stmt.listDeclaresOnly (allowed : Bool → DeclKind → Bool) (inner : Bool) : List Stmt → Bool
  | [] => true
  | stmt :: rest => stmt.declaresOnly allowed inner && Stmt.listDeclaresOnly allowed inner rest

end

mutual

/-- Where everything is allowed, a statement declares no more. -/
lemma Stmt.declaresOnly_true (inner : Bool) (stmt : Stmt) :
    stmt.declaresOnly (fun _ _ => true) inner = true := by
  cases stmt with
  | block body =>
    rw [declaresOnly]
    exact listDeclaresOnly_true true body
  | branch test yes no =>
    rw [declaresOnly, declaresOnly_true inner yes, declaresOnly_true inner no, Bool.and_self]
  | whileLoop test body | forOf binding iterable body | forIn binding object body =>
    rw [declaresOnly]
    exact declaresOnly_true _ body
  | forLoop start test update body =>
    rw [declaresOnly, declaresOnly_true true start, declaresOnly_true true body, Bool.and_self]
  | _ => rfl

/-- Where everything is allowed, statements declare no more. -/
lemma Stmt.listDeclaresOnly_true (inner : Bool) (body : List Stmt) :
    Stmt.listDeclaresOnly (fun _ _ => true) inner body = true := by
  cases body with
  | nil => rfl
  | cons stmt rest =>
    rw [listDeclaresOnly, declaresOnly_true inner stmt, listDeclaresOnly_true inner rest,
      Bool.and_self]

end

namespace Scope

/-! ## Statements -/

/-- **A family of relations that frames keep as well, and declarations as far as they are
allowed.** -/
structure GuardedCongruence {ι : Type} (enter : Frame → ι → ι) (allowed : Bool → DeclKind → Bool)
    (inner : ι → Bool) (R : ι → Scope → Scope → Prop) : Prop where
  /-- Reading and assigning names keep each relation. -/
  congruence : ∀ i, Congruence (R i)
  /-- A declaration that is allowed keeps each relation. -/
  declareAs : ∀ ⦃i kind⦄, allowed (inner i) kind = true → ∀ ⦃s t⦄, R i s t →
    ∀ name value, R i (s.declareAs kind name value) (t.declareAs kind name value)
  /-- One more frame leads to another relation. -/
  push : ∀ ⦃i s t⦄, R i s t → ∀ f, R (enter f i) (s.push f) (t.push f)
  /-- Without it, scopes are related as they were before. -/
  truncate : ∀ ⦃i s t s' t'⦄ f, R i s t → R (enter f i) s' t' →
    R i (s'.truncate s.depth) (t'.truncate t.depth)
  /-- Within it, code is in a frame of its own. -/
  inner_enter : ∀ f i, inner (enter f i) = true

namespace GuardedCongruence

variable {ι : Type} {enter : Frame → ι → ι} {allowed : Bool → DeclKind → Bool} {inner : ι → Bool}
  {R : ι → Scope → Scope → Prop} (hR : GuardedCongruence enter allowed inner R)

section Parts

include hR

/-- A body in a frame of its own keeps what the body keeps inside the frame. -/
lemma inFrame {f : Frame} {i : ι} {body : Run Unit} (hbody : Keeps (R (enter f i)) body) :
    Keeps (R i) (Run.inFrame f body) :=
  .within (Scope.push · f) (Scope.push · f) (fun s t => t.truncate s.depth)
    (fun s t => t.truncate s.depth) hbody (fun _ _ h => hR.push h f)
    fun _ _ h _ _ h' => hR.truncate f h h'

/-- Conditions keep each relation. -/
lemma test (i : ι) (functions : Functions) (e : Expr) : Keeps (R i) (test functions e) :=
  Run.keeps_ofEval (.bind ((hR.congruence i).eval functions e) fun _ => .pure _)

/-- Conditions that may be missing keep each relation. -/
lemma testOptional (i : ι) (functions : Functions) (e : Option Expr) :
    Keeps (R i) (testOptional functions e) := by
  cases e with
  | none => exact .pure true
  | some e => exact hR.test i functions e

/-- An expression as a statement keeps each relation. -/
lemma discard (i : ι) (functions : Functions) (e : Expr) :
    Keeps (R i) (Run.ofEval (discard (Script.eval functions e))) :=
  Run.keeps_ofEval (.map (Function.const Value ()) ((hR.congruence i).eval functions e))

/-- Declarations that are allowed keep each relation. -/
lemma declareAll {i : ι} {kind : DeclKind} (h : allowed (inner i) kind = true)
    (functions : Functions) (declarations : List (String × Option Expr)) :
    Keeps (R i) (declareAll functions kind declarations) := by
  have hbind (name : String) (v : Value) : Keeps (R i) (Script.declare.bind kind name v) :=
    Keeps.of_forall fun s t hst => ⟨rfl, hR.declareAs h hst name v⟩
  induction declarations with
  | nil => exact .pure ()
  | cons entry rest ih =>
    obtain ⟨name, value⟩ := entry
    refine Simulates.bind ?_ fun _ => ih
    cases value with
    | some e => exact .bind ((hR.congruence i).eval functions e) fun v => hbind name v
    | none =>
      refine Keeps.get_bind
        (fun s t h => by rw [(hR.congruence i).contains_eq h]) fun s => ?_
      split
      · exact .pure ()
      · exact hbind name .null

/-- A body run for every value of a list. -/
lemma forBinding {i : ι} {binding : String} {body : Run Unit}
    (hbody : ∀ v, Keeps (R (enter { vars := [(binding, v)] } i)) body) (values : List Value) :
    Keeps (R i) (forBinding binding body values) :=
  Simulates.forEach (fun v => hR.inFrame (hbody v)) values

end Parts

mutual

/-- **Statements keep a guarded congruence,** if they declare no more than is allowed.

**Proof sketch.** Induction on the statement, for all indices at once: what stands in a frame of its
own is run at the index of that frame. -/
theorem exec (hR : GuardedCongruence enter allowed inner R) (functions : Functions) (fuel : Nat)
    (i : ι) (stmt : Stmt) (h : stmt.declaresOnly allowed (inner i) = true) :
    Keeps (R i) (Script.exec functions fuel stmt) := by
  have hinner (body : Stmt) (hbody : body.declaresOnly allowed true = true) (f : Frame) (j : ι) :
      body.declaresOnly allowed (inner (enter f j)) = true := by
    rw [hR.inner_enter]
    exact hbody
  cases stmt with
  | empty =>
    rw [Script.exec]
    exact .pure ()
  | expr e =>
    rw [Script.exec]
    exact hR.discard i functions e
  | declare kind declarations =>
    rw [Script.exec]
    exact Run.keeps_ofEval (hR.declareAll h functions declarations)
  | block body =>
    rw [Script.exec]
    refine hR.inFrame (hR.execList functions fuel _ body ?_)
    rw [hR.inner_enter]
    exact h
  | branch condition yes no =>
    obtain ⟨hyes, hno⟩ := Bool.and_eq_true_iff.1 h
    rw [Script.exec]
    refine Simulates.bind (hR.test i functions condition) fun holds => ?_
    cases holds with
    | true => exact hR.exec functions fuel i yes hyes
    | false => exact hR.exec functions fuel i no hno
  | whileLoop condition body =>
    rw [Script.exec]
    exact .loop rfl (hR.test i functions condition) (hR.exec functions fuel i body h) fuel
  | forOf binding iterable body =>
    rw [Script.exec]
    refine .bind (Run.keeps_ofEval ((hR.congruence i).eval functions iterable)) fun v => ?_
    refine .bind (Run.keeps_ofEval (Eval.keeps_ofExcept _)) fun items => ?_
    exact hR.forBinding (fun v => hR.exec functions fuel _ body (hinner body h _ i)) items
  | forIn binding owner body =>
    rw [Script.exec]
    refine .bind (Run.keeps_ofEval ((hR.congruence i).eval functions owner)) fun v => ?_
    exact hR.forBinding (fun v => hR.exec functions fuel _ body (hinner body h _ i)) v.keys
  | forLoop start condition update body =>
    obtain ⟨hstart, hbody⟩ := Bool.and_eq_true_iff.1 h
    have hbegin := hR.exec functions fuel (enter {} i) start (hinner start hstart _ i)
    have hturn := hR.exec functions fuel (enter {} i) body (hinner body hbody _ i)
    cases update with
    | none =>
      rw [Script.exec]
      refine hR.inFrame (.bind hbegin fun _ => ?_)
      refine .loop rfl (hR.testOptional _ functions condition) ?_ fuel
      exact .bind hturn fun _ => .pure ()
    | some e =>
      rw [Script.exec]
      refine hR.inFrame (.bind hbegin fun _ => ?_)
      refine .loop rfl (hR.testOptional _ functions condition) ?_ fuel
      exact .bind hturn fun _ => hR.discard _ functions e

/-- Lists of statements keep a guarded congruence, if they declare no more than is allowed. -/
theorem execList (hR : GuardedCongruence enter allowed inner R) (functions : Functions)
    (fuel : Nat) (i : ι) (body : List Stmt)
    (h : Stmt.listDeclaresOnly allowed (inner i) body = true) :
    Keeps (R i) (Script.execList functions fuel body) := by
  cases body with
  | nil => exact .pure ()
  | cons stmt rest =>
    obtain ⟨hstmt, hrest⟩ := Bool.and_eq_true_iff.1 h
    exact .bind (hR.exec functions fuel i stmt hstmt) fun _ =>
      hR.execList functions fuel i rest hrest

end

end GuardedCongruence

/-- **A family of relations that declarations and frames keep as well.** -/
structure FrameCongruence {ι : Type} (enter : Frame → ι → ι) (R : ι → Scope → Scope → Prop) :
    Prop where
  /-- Reading and assigning names keep each relation. -/
  congruence : ∀ i, Congruence (R i)
  /-- A declaration in the innermost frame keeps each relation. -/
  declare : ∀ ⦃i s t⦄, R i s t → ∀ name value, R i (s.declare name value) (t.declare name value)
  /-- A declaration in the innermost function frame keeps each relation. -/
  declareVar : ∀ ⦃i s t⦄, R i s t →
    ∀ name value, R i (s.declareVar name value) (t.declareVar name value)
  /-- One more frame leads to another relation. -/
  push : ∀ ⦃i s t⦄, R i s t → ∀ f, R (enter f i) (s.push f) (t.push f)
  /-- Without it, scopes are related as they were before. -/
  truncate : ∀ ⦃i s t s' t'⦄ f, R i s t → R (enter f i) s' t' →
    R i (s'.truncate s.depth) (t'.truncate t.depth)

namespace FrameCongruence

variable {ι : Type} {enter : Frame → ι → ι} {R : ι → Scope → Scope → Prop}

/-- A frame congruence allows every declaration. -/
lemma guarded (hR : FrameCongruence enter R) :
    GuardedCongruence enter (fun _ _ => true) (fun _ => true) R where
  congruence := hR.congruence
  declareAs i kind _ s t h name value := by
    unfold Scope.declareAs
    split
    · exact hR.declareVar h name value
    · exact hR.declare h name value
  push := hR.push
  truncate := hR.truncate
  inner_enter _ _ := rfl

/-- **Statements keep a frame congruence.** -/
theorem execList (hR : FrameCongruence enter R) (functions : Functions) (fuel : Nat) (i : ι)
    (body : List Stmt) : Keeps (R i) (Script.execList functions fuel body) :=
  hR.guarded.execList functions fuel i body (Stmt.listDeclaresOnly_true true body)

end FrameCongruence

end Scope

end Stencil.Script
