import Stencil.Proofs.Process.Providing
import Stencil.Proofs.Script.Congruence
import Stencil.Proofs.Script.Results
import Stencil.Proofs.Script.Writing
import Stencil.Script.Evaluator

/-!
# Evaluation keeps scopes regular

A scope whose values are regular is left as one by all code, whether the code ends well or fails,
and the values of expressions are regular too.

## Main results

* `Stencil.Script.provides_evalChain`, `provides_exec` — expressions and statements with regular
  literals keep scopes regular, and expressions give regular values.
* `Stencil.Evaluator.provides_evaluate_script`, `provides_execute_script` — so does all code that is
  read from a text.
-/

set_option relaxedAutoImplicit false
set_option autoImplicit false

namespace Stencil

namespace Script

open Process (Provides)

variable {v w : Value} {args : List Value}

/-! ## Scopes -/

namespace Scope.Regular

variable {s t : Scope}

/-- A frame with regular bindings is put on top. -/
lemma push (hs : s.Regular) {f : Frame} (hf : (Value.object f.vars).Regular) : (s.push f).Regular :=
  ⟨hs.globals, List.forall_mem_cons.2 ⟨hf, hs.frames⟩⟩

/-- Frames are taken away. -/
lemma truncate (hs : s.Regular) (depth : Nat) : (s.truncate depth).Regular :=
  ⟨hs.globals, fun f hf => hs.frames f (List.mem_of_mem_drop hf)⟩

/-- A regular value is declared in the innermost frame. -/
lemma declare (hs : s.Regular) (name : String) (hv : v.Regular) : (s.declare name v).Regular := by
  unfold Scope.declare
  split
  · exact ⟨hs.globals.insert name hv, hs.frames⟩
  next f rest hframes =>
    have hold := hs.frames
    rw [hframes] at hold
    obtain ⟨hf, hrest⟩ := List.forall_mem_cons.1 hold
    exact ⟨hs.globals, List.forall_mem_cons.2 ⟨hf.insert name hv, hrest⟩⟩

/-- A regular value is declared in the innermost function frame. -/
lemma declareVar (hs : s.Regular) (name : String) (hv : v.Regular) :
    (s.declareVar name v).Regular := by
  have hframes {frames after : List Frame} (h : declareVarIn? name v frames = some after)
      (hold : ∀ f ∈ frames, (Value.object f.vars).Regular) :
      ∀ f ∈ after, (Value.object f.vars).Regular := by
    induction frames generalizing after with
    | nil => cases h
    | cons f rest ih =>
      obtain ⟨hf, hrest⟩ := List.forall_mem_cons.1 hold
      simp only [declareVarIn?] at h
      split at h
      · cases h
        exact List.forall_mem_cons.2 ⟨hf.insert name hv, hrest⟩
      · obtain ⟨inner, hinner, rfl⟩ := Option.map_eq_some_iff.1 h
        exact List.forall_mem_cons.2 ⟨hf, ih hinner hrest⟩
  unfold Scope.declareVar
  split
  next frames h => exact ⟨hs.globals, hframes h hs.frames⟩
  · exact ⟨hs.globals.insert name hv, hs.frames⟩

/-- What a path of keys leads to is regular. -/
lemma at? {root : String} {keys : List Value} (hs : s.Regular) (h : s.at? root keys = some v) :
    v.Regular := by
  obtain ⟨w, hw, hv⟩ := Option.bind_eq_some_iff.1 h
  exact (hs.get? hw).at? hv

/-- A regular value is put at a place that is there. -/
lemma putAt {root : String} {keys : List Value} (hs : s.Regular) (hv : v.Regular)
    (h : s.at? root keys = some w) : (s.putAt root keys v).Regular := by
  obtain ⟨x, hx, hw⟩ := Option.bind_eq_some_iff.1 h
  rw [Scope.putAt, hx]
  exact hs.assign root ((hs.get? hx).putAt hv hw)

end Scope.Regular

/-! ## Steps of evaluation -/

/-- What is computed without the scope. -/
lemma Eval.provides_ofExcept {α : Type} {R : α → Prop} {r : Except Fault α}
    (h : ∀ a, r = .ok a → R a) : Provides Scope.Regular R (Eval.ofExcept r) :=
  fun _ hs => ⟨hs, h⟩

/-- A computation as a run gives what the computation gives. -/
lemma Run.provides_ofEval {α : Type} {R : α → Prop} {x : Eval α}
    (hx : Provides Scope.Regular R x) : Provides Scope.Regular R (Run.ofEval x) := by
  intro s hs
  obtain ⟨ht, hR⟩ := hx hs
  unfold Run.ofEval
  rcases hr : x s with ⟨f | a, t⟩ <;> rw [hr] at ht hR
  · exact ⟨ht, fun _ h => (by cases h)⟩
  · refine ⟨ht, fun b hb => ?_⟩
    cases hb
    exact hR rfl

/-- A name is bound to a regular value. -/
lemma provides_readName (name : String) :
    Provides Scope.Regular Value.Regular (readName name) := by
  intro s hs
  unfold readName
  split
  next v hv =>
    refine ⟨hs, fun w hw => ?_⟩
    cases hw
    exact hs.get? hv
  · exact ⟨hs, fun w hw => (by cases hw)⟩

/-- A regular value is assigned to a place. -/
lemma provides_assignTo (place : Option (String × List Value)) (hv : v.Regular) :
    Provides Scope.Regular (fun _ => True) (assignTo place v) := by
  intro s hs
  unfold assignTo
  split
  · exact ⟨hs, fun _ _ => trivial⟩
  · split
    next t ht => exact ⟨hs.assignAt hv ht, fun _ _ => trivial⟩
    · exact ⟨hs, fun _ _ => trivial⟩

/-- A list is changed in place, with regular arguments. -/
lemma provides_changeAt (root : String) (keys : List Value) (method : String)
    (hargs : ∀ v ∈ args, v.Regular) :
    Provides Scope.Regular (∀ v ∈ ·, v.Regular) (changeAt root keys method args) := by
  intro s hs
  unfold changeAt
  split
  next items hitems =>
    split
    next after result hchange =>
      obtain ⟨hafter, hresult⟩ :=
        changeList?_regular (hs.at? hitems).elements hargs hchange
      refine ⟨hs.putAt (.list hafter) hitems, fun o ho => ?_⟩
      cases ho
      exact fun w hw => Option.some.inj hw ▸ hresult
    · refine ⟨hs, fun o ho => ?_⟩
      cases ho
      exact nofun
  · refine ⟨hs, fun o ho => ?_⟩
    cases ho
    exact nofun

/-! ## Expressions -/

section Parts

variable {functions : Functions} {owner : Expr} {es : List Expr}
  (howner : Provides Scope.Regular (∀ v ∈ ·, v.Regular) (evalChain functions owner))
  (hargs : Provides Scope.Regular (∀ v ∈ ·, v.Regular) (evalList functions es))
  {otherwise : Eval (Option Value)}
  (hotherwise : Provides Scope.Regular (∀ v ∈ ·, v.Regular) otherwise)

/-- A regular value, where a chain may be cut short. -/
lemma Eval.provides_some (hv : v.Regular) :
    Provides Scope.Regular (∀ v ∈ ·, v.Regular) (pure (some v) : Eval (Option Value)) :=
  .pure fun _ heq => Option.some.inj heq ▸ hv

/-- Nothing, where a chain is cut short. -/
lemma Eval.provides_none :
    Provides Scope.Regular (∀ v ∈ ·, v.Regular) (pure none : Eval (Option Value)) :=
  .pure nofun

include howner in
/-- A member is read of a regular value. -/
lemma provides_readMember (property : String) (optional : Bool) :
    Provides Scope.Regular (∀ v ∈ ·, v.Regular) (readMember functions owner property optional) := by
  refine howner.bind fun receiver hreceiver => ?_
  cases receiver with
  | none => exact Eval.provides_none
  | some v =>
    dsimp only
    split
    · exact Eval.provides_none
    · have hv : v.Regular := hreceiver v rfl
      exact (Eval.provides_ofExcept fun w hw => hv.getProperty hw).bind fun w hw =>
        Eval.provides_some hw

include hotherwise in
/-- A constant of a namespace is regular. -/
lemma provides_constantOr (owner : Expr) (property : String) :
    Provides Scope.Regular (∀ v ∈ ·, v.Regular) (constantOr owner property otherwise) := by
  cases owner with
  | name space =>
    refine .get_bind fun s _ => ?_
    split
    next v hv => exact Eval.provides_some (constant?_regular hv)
    · exact hotherwise
  | _ => exact hotherwise

include howner hargs in
/-- A method is called on a regular value with regular arguments. -/
lemma provides_callOnOwner (property : String) (optional : Bool) :
    Provides Scope.Regular (∀ v ∈ ·, v.Regular)
      (callOnOwner functions owner property optional es) := by
  refine howner.bind fun receiver hreceiver => ?_
  cases receiver with
  | none => exact Eval.provides_none
  | some v =>
    dsimp only
    split
    · exact Eval.provides_none
    · have hv : v.Regular := hreceiver v rfl
      exact hargs.bind fun values hvalues =>
        (Eval.provides_ofExcept fun w hw => callMethod_regular hv hvalues hw).bind fun w hw =>
          Eval.provides_some hw

include hargs hotherwise in
/-- A function of a namespace is called with regular arguments. -/
lemma provides_callInSpace (owner : Expr) (property : String) :
    Provides Scope.Regular (∀ v ∈ ·, v.Regular)
      (callInSpace functions owner property es otherwise) := by
  cases owner with
  | name space =>
    refine .get_bind fun s _ => ?_
    split
    · exact hargs.bind fun values hvalues =>
        (Eval.provides_ofExcept fun w hw => callStatic_regular hvalues hw).bind fun w hw =>
          Eval.provides_some hw
    · exact hotherwise
  | _ => exact hotherwise

include hargs hotherwise in
/-- A list is changed at a place with regular arguments. -/
lemma provides_callAtPlace
    (hplace : Provides Scope.Regular (fun _ => True) (evalPlace functions owner))
    (property : String) : Provides Scope.Regular (∀ v ∈ ·, v.Regular)
      (callAtPlace functions owner property es otherwise) := by
  refine hplace.bind fun place _ => ?_
  cases place with
  | none => exact hotherwise
  | some place =>
    refine hargs.bind fun values hvalues => (provides_changeAt _ _ _ hvalues).bind fun o ho => ?_
    cases o with
    | none => exact hotherwise
    | some v => exact Eval.provides_some (ho v rfl)

end Parts

mutual

/-- **An expression with regular literals** keeps scopes regular and gives a regular value, if
functions of the host do.

**Proof sketch.** Induction on the expression.  Its parts give regular values and leave a regular
scope; what they are put together with gives regular values for regular ones, and what is assigned
or changed in place is regular. -/
theorem provides_evalChain {functions : Functions} (hfunctions : functions.Regular) (e : Expr)
    (he : e.Regular) : Provides Scope.Regular (∀ v ∈ ·, v.Regular) (evalChain functions e) := by
  cases e with
  | literal v =>
    cases he with | literal hv =>
    rw [evalChain]
    exact Eval.provides_some hv
  | name n =>
    rw [evalChain]
    exact (provides_readName n).bind fun v hv => Eval.provides_some hv
  | list items =>
    cases he with | list hitems =>
    rw [evalChain]
    exact (provides_evalList hfunctions items hitems).bind fun values hvalues =>
      Eval.provides_some (.list hvalues)
  | object entries =>
    cases he with | object hentries =>
    rw [evalChain]
    exact (provides_evalEntries hfunctions [] .empty entries hentries).bind
      fun fields hfields => Eval.provides_some hfields
  | member owner property optional =>
    cases he with | member _ _ howner =>
    rw [evalChain_member]
    exact provides_constantOr
      (provides_readMember (provides_evalChain hfunctions owner howner) property optional) owner
      property
  | index owner key optional =>
    cases he with | index _ howner hkey =>
    rw [evalChain]
    refine (provides_evalChain hfunctions owner howner).bind fun receiver hreceiver => ?_
    cases receiver with
    | none => exact Eval.provides_none
    | some v =>
      dsimp only
      split
      · exact Eval.provides_none
      · have hv : v.Regular := hreceiver v rfl
        refine (provides_evalChain hfunctions key hkey).bind fun k _ =>
          (Eval.provides_ofExcept fun w hw => ?_).bind fun w hw => Eval.provides_some hw
        rw [Value.readIndex_eq_getIndex] at hw
        exact hv.getIndex hw
  | call callee args =>
    cases he with | call hcallee hargs =>
    have hvalues := provides_evalList hfunctions args hargs
    cases callee with
    | name n =>
      rw [evalChain]
      exact hvalues.bind fun values hvalues => .get_bind fun s _ =>
        (Eval.provides_ofExcept fun w hw => callFunction_regular hfunctions hvalues hw).bind
          fun w hw => Eval.provides_some hw
    | member owner property optional =>
      cases hcallee with | member _ _ howner =>
      have hplain := provides_callInSpace hvalues
        (provides_callOnOwner (provides_evalChain hfunctions owner howner) hvalues property
          optional) owner property
      rw [evalChain_call_member]
      dsimp only
      split
      · exact provides_callAtPlace hvalues hplain (provides_evalPlace hfunctions owner howner)
          property
      · exact hplain
    | _ =>
      rw [evalChain]
      · exact .throw _
      all_goals simp
  | unary op operand =>
    cases he with | unary _ hoperand =>
    have hplain : Provides Scope.Regular (∀ v ∈ ·, v.Regular) (do
        return some (op.apply ((← evalChain functions operand).getD .null))) :=
      (provides_evalChain hfunctions operand hoperand).bind fun v _ =>
        Eval.provides_some (op.apply_regular _)
    cases operand with
    | name n =>
      rw [evalChain]
      refine .get_bind fun s _ => ?_
      split
      · exact Eval.provides_some (.text _)
      · exact hplain
    | _ =>
      rw [evalChain]
      · exact hplain
      all_goals simp
  | binary op left right =>
    cases he with | binary _ hleft hright =>
    rw [evalChain]
    exact (provides_evalChain hfunctions left hleft).bind fun a _ =>
      (provides_evalChain hfunctions right hright).bind fun b _ =>
        Eval.provides_some (op.apply_regular _ _)
  | logical op left right =>
    cases he with | logical _ hleft hright =>
    rw [evalChain]
    refine (provides_evalChain hfunctions left hleft).bind fun a ha => ?_
    dsimp only
    split
    · exact Eval.provides_some (.getD ha)
    · exact (provides_evalChain hfunctions right hright).bind fun b hb =>
        Eval.provides_some (.getD hb)
  | choice test yes no =>
    cases he with | choice htest hyes hno =>
    rw [evalChain]
    refine (provides_evalChain hfunctions test htest).bind fun v _ => ?_
    split
    · exact (provides_evalChain hfunctions yes hyes).bind fun v hv =>
        Eval.provides_some (.getD hv)
    · exact (provides_evalChain hfunctions no hno).bind fun v hv => Eval.provides_some (.getD hv)
  | assign target op value =>
    cases he with | assign _ htarget hvalue =>
    cases op with
    | none =>
      rw [evalChain]
      exact (provides_evalChain hfunctions value hvalue).bind fun v hv =>
        (provides_evalPlace hfunctions target htarget).bind fun place _ =>
          (provides_assignTo place (.getD hv)).bind fun _ _ => Eval.provides_some (.getD hv)
    | some op =>
      rw [evalChain]
      exact (provides_evalChain hfunctions target htarget).bind fun a _ =>
        (provides_evalChain hfunctions value hvalue).bind fun b _ =>
        (provides_evalPlace hfunctions target htarget).bind fun place _ =>
          (provides_assignTo place (op.apply_regular _ _)).bind fun _ _ =>
            Eval.provides_some (op.apply_regular _ _)
  | update target direction before =>
    cases he with | update _ _ htarget =>
    rw [evalChain]
    refine (provides_evalChain hfunctions target htarget).bind fun v _ =>
      (provides_evalPlace hfunctions target htarget).bind fun place _ =>
        (provides_assignTo place (.ofFloat _)).bind fun _ _ => Eval.provides_some ?_
    split <;> exact .ofFloat _

/-- So do expressions one after the other. -/
theorem provides_evalList {functions : Functions} (hfunctions : functions.Regular)
    (es : List Expr) (hes : ∀ e ∈ es, e.Regular) :
    Provides Scope.Regular (∀ v ∈ ·, v.Regular) (evalList functions es) := by
  cases es with
  | nil => exact .pure nofun
  | cons e rest =>
    obtain ⟨he, hrest⟩ := List.forall_mem_cons.1 hes
    exact (provides_evalChain hfunctions e he).bind fun v hv =>
      (provides_evalList hfunctions rest hrest).bind fun values hvalues =>
        .pure (List.forall_mem_cons.2 ⟨.getD hv, hvalues⟩)

/-- So do the members of an object. -/
theorem provides_evalEntries {functions : Functions} (hfunctions : functions.Regular)
    (fields : Fields Value) (hfields : (Value.object fields).Regular)
    (es : List (String × Expr)) (hes : ∀ entry ∈ es, entry.2.Regular) :
    Provides Scope.Regular (fun fields => (Value.object fields).Regular)
      (evalEntries functions fields es) := by
  cases es with
  | nil => exact .pure hfields
  | cons entry rest =>
    obtain ⟨k, e⟩ := entry
    obtain ⟨he, hrest⟩ := List.forall_mem_cons.1 hes
    exact (provides_evalChain hfunctions e he).bind fun v hv =>
      provides_evalEntries hfunctions _ (hfields.insert k (.getD hv)) rest hrest

/-- So do places, with whatever keys. -/
theorem provides_evalPlace {functions : Functions} (hfunctions : functions.Regular) (e : Expr)
    (he : e.Regular) : Provides Scope.Regular (fun _ => True) (evalPlace functions e) := by
  cases e with
  | name n => exact .pure trivial
  | member owner property optional =>
    cases he with | member _ _ howner =>
    refine (provides_evalPlace hfunctions owner howner).bind fun place _ => ?_
    cases place <;> exact .pure trivial
  | index owner key optional =>
    cases he with | index _ howner hkey =>
    refine (provides_evalPlace hfunctions owner howner).bind fun place _ => ?_
    cases place with
    | none => exact .pure trivial
    | some place =>
      exact (provides_evalChain hfunctions key hkey).bind fun v _ => .pure trivial
  | _ => exact .pure trivial

end

/-! ## Statements -/

section Statements

variable {functions : Functions} (hfunctions : functions.Regular)

include hfunctions

/-- The value of an expression is regular, also where a chain was cut short. -/
theorem provides_eval (e : Expr) (he : e.Regular) :
    Provides Scope.Regular Value.Regular (eval functions e) :=
  (provides_evalChain hfunctions e he).bind fun _ hv => .pure (.getD hv)

/-- A declaration binds a regular value. -/
lemma provides_declareAll (kind : DeclKind) (declarations : List (String × Option Expr))
    (h : ∀ d ∈ declarations, ∀ e ∈ d.2, e.Regular) :
    Provides Scope.Regular (fun _ => True) (declareAll functions kind declarations) := by
  have hbind (name : String) {v : Value} (hv : v.Regular) :
      Provides Scope.Regular (fun _ => True) (declare.bind kind name v) := by
    refine fun s hs => ⟨?_, fun _ _ => trivial⟩
    show (if kind = .var then s.declareVar name v else s.declare name v).Regular
    split
    · exact hs.declareVar name hv
    · exact hs.declare name hv
  induction declarations with
  | nil => exact .pure trivial
  | cons entry rest ih =>
    obtain ⟨name, value⟩ := entry
    obtain ⟨hvalue, hrest⟩ := List.forall_mem_cons.1 h
    have hfirst : Provides Scope.Regular (fun _ => True) (declare functions kind name value) := by
      cases value with
      | some e =>
        exact (provides_eval hfunctions e (hvalue e rfl)).bind fun v hv => hbind name hv
      | none =>
        refine .get_bind fun s _ => ?_
        split
        · exact .pure trivial
        · exact hbind name .null
    exact hfirst.bind fun _ _ => ih hrest

omit hfunctions in
/-- A loop over the elements of a regular value visits regular values. -/
lemma elementsOf_regular {items : List Value} (hv : v.Regular) (h : elementsOf v = .ok items) :
    ∀ w ∈ items, w.Regular := by
  unfold elementsOf at h
  split at h
  next elements helements =>
    cases h
    exact hv.elements? helements
  · cases h

/-- A condition leaves a regular scope. -/
lemma provides_test {e : Expr} (he : e.Regular) :
    Provides Scope.Regular (fun _ => True) (test functions e) :=
  Run.provides_ofEval ((provides_eval hfunctions e he).bind fun _ _ => .pure trivial)

/-- So does one that may be missing. -/
lemma provides_testOptional {condition : Option Expr} (h : ∀ e ∈ condition, e.Regular) :
    Provides Scope.Regular (fun _ => True) (testOptional functions condition) := by
  cases condition with
  | none => exact .pure trivial
  | some e => exact provides_test hfunctions (h e rfl)

/-- So does an expression as a statement. -/
lemma provides_discard {e : Expr} (he : e.Regular) :
    Provides Scope.Regular (fun _ => True) (Run.ofEval (discard (eval functions e))) :=
  Run.provides_ofEval ((provides_eval hfunctions e he).map fun _ _ => trivial)

omit hfunctions in
/-- A body in a frame of its own, with regular bindings. -/
lemma Run.provides_inFrame {f : Frame} (hf : (Value.object f.vars).Regular) {body : Run Unit}
    (hbody : Provides Scope.Regular (fun _ => True) body) :
    Provides Scope.Regular (fun _ => True) (Run.inFrame f body) :=
  .within (Scope.push · f) (fun s t => t.truncate s.depth) hbody (fun _ hs => hs.push hf)
    fun s _ _ ht => ht.truncate s.depth

omit hfunctions in
/-- A body for every value of a list. -/
lemma provides_forBinding (binding : String) {body : Run Unit}
    (hbody : Provides Scope.Regular (fun _ => True) body) {values : List Value}
    (hvalues : ∀ v ∈ values, v.Regular) :
    Provides Scope.Regular (fun _ => True) (forBinding binding body values) := by
  have hframe (v : Value) (hv : v.Regular) :
      Provides Scope.Regular (fun _ => True) (Run.inFrame { vars := [(binding, v)] } body) :=
    Run.provides_inFrame (Value.Regular.empty.insert binding hv) hbody
  exact .forEach hframe hvalues

end Statements

mutual

/-- **A statement with regular literals** keeps scopes regular, if functions of the host give
regular values.

**Proof sketch.** Induction on the statement.  What it binds are values of expressions, elements and
keys of them, or nothing; the frames that it enters are gone in the end. -/
theorem provides_exec {functions : Functions} (hfunctions : functions.Regular) (fuel : Nat)
    (stmt : Stmt) (h : stmt.Regular) :
    Provides Scope.Regular (fun _ => True) (exec functions fuel stmt) := by
  cases stmt with
  | empty =>
    rw [exec]
    exact .pure trivial
  | expr e =>
    cases h with | expr he =>
    rw [exec]
    exact provides_discard hfunctions he
  | declare kind declarations =>
    cases h with | declare _ hdeclarations =>
    rw [exec]
    exact Run.provides_ofEval (provides_declareAll hfunctions kind declarations hdeclarations)
  | block body =>
    cases h with | block hbody =>
    rw [exec]
    exact Run.provides_inFrame .empty (provides_execList hfunctions fuel body hbody)
  | branch condition yes no =>
    cases h with | branch hcondition hyes hno =>
    rw [exec]
    refine (provides_test hfunctions hcondition).bind fun holds _ => ?_
    cases holds with
    | true => exact provides_exec hfunctions fuel yes hyes
    | false => exact provides_exec hfunctions fuel no hno
  | whileLoop condition body =>
    cases h with | whileLoop hcondition hbody =>
    rw [exec]
    exact .loop (provides_test hfunctions hcondition) (provides_exec hfunctions fuel body hbody)
      fuel
  | forOf binding iterable body =>
    cases h with | forOf _ hiterable hbody =>
    rw [exec]
    refine (Run.provides_ofEval (provides_eval hfunctions iterable hiterable)).bind fun v hv =>
      (Run.provides_ofEval (Eval.provides_ofExcept fun items => elementsOf_regular hv)).bind ?_
    exact fun items hitems => provides_forBinding binding
      (provides_exec hfunctions fuel body hbody) hitems
  | forIn binding owner body =>
    cases h with | forIn _ howner hbody =>
    rw [exec]
    exact (Run.provides_ofEval (provides_eval hfunctions owner howner)).bind fun v _ =>
      provides_forBinding binding (provides_exec hfunctions fuel body hbody) (.keys v)
  | forLoop start condition update body =>
    cases h with | forLoop hstart hcondition hupdate hbody =>
    have hbegin := provides_exec hfunctions fuel start hstart
    have hturn := provides_exec hfunctions fuel body hbody
    cases update with
    | none =>
      rw [exec]
      exact Run.provides_inFrame .empty (hbegin.bind fun _ _ =>
        .loop (provides_testOptional hfunctions hcondition)
          (hturn.bind fun _ _ => .pure trivial) fuel)
    | some e =>
      rw [exec]
      exact Run.provides_inFrame .empty (hbegin.bind fun _ _ =>
        .loop (provides_testOptional hfunctions hcondition)
          (hturn.bind fun _ _ => provides_discard hfunctions (hupdate e rfl)) fuel)

/-- So do statements one after the other. -/
theorem provides_execList {functions : Functions} (hfunctions : functions.Regular) (fuel : Nat)
    (body : List Stmt) (h : ∀ stmt ∈ body, stmt.Regular) :
    Provides Scope.Regular (fun _ => True) (execList functions fuel body) := by
  cases body with
  | nil => exact .pure trivial
  | cons stmt rest =>
    obtain ⟨hstmt, hrest⟩ := List.forall_mem_cons.1 h
    exact (provides_exec hfunctions fuel stmt hstmt).bind fun _ _ =>
      provides_execList hfunctions fuel rest hrest

end

end Script

/-! ## All code -/

namespace Evaluator

open Script
open Process (Provides)

variable {functions : Functions} (hfunctions : functions.Regular) (code : String)

include hfunctions

/-- **Every expression keeps scopes regular** and gives a regular value, if functions of the host
do. -/
theorem provides_evaluate_script :
    Provides Scope.Regular Value.Regular ((script functions).evaluate code) :=
  (Eval.provides_ofExcept fun _ he => Expr.regular_ofText he).bind fun e he =>
    provides_eval hfunctions e he

/-- **Every fragment keeps scopes regular,** if functions of the host give regular values. -/
theorem provides_execute_script (fuel : Nat) :
    Provides Scope.Regular (fun _ => True) ((script functions).execute fuel code) :=
  (Run.provides_ofEval (Eval.provides_ofExcept fun _ hbody =>
    Stmt.regular_listOfText hbody)).bind fun body hbody =>
      provides_execList hfunctions fuel body hbody

end Evaluator

end Stencil
