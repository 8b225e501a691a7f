import Mathlib.Data.List.Zip
import Stencil.Proofs.Script.Chains

/-!
# Keys, values and entries

Three functions show what is in a value: its keys, its values, and the pairs of both.  They agree on
objects.  The positions of lists and texts count as keys, but the values of a text are left out, and
so are the entries of lists and texts.

## Main definitions

* `Stencil.Script.viewOf` — a view of the value of an expression.
* `Stencil.Value.pairs` — keys paired with values.

## Main results

* `Stencil.Script.eval_callStatic` — a call of a function of a namespace.
* `Stencil.Script.eval_views` — on which values the three views agree.
-/

set_option relaxedAutoImplicit false
set_option autoImplicit false

namespace Stencil

/-! ## Views of a value -/

namespace Value

/-- **Keys paired with values,** as lists of two. -/
def pairs (ks xs : List Value) : List Value := List.zipWith (fun k x => .list [k, x]) ks xs

/-- There are as many pairs as there are keys and values to put together. -/
lemma length_pairs (ks xs : List Value) : (pairs ks xs).length = min ks.length xs.length :=
  List.length_zipWith

/-- Without values there are no pairs. -/
lemma pairs_nil_right (ks : List Value) : pairs ks [] = [] := List.zipWith_nil_right

/-- The members of an object are its keys paired with what they hold. -/
lemma pairs_members (fields : Fields Value) :
    pairs (fields.map fun (k, _) => .text k) (fields.map (·.2)) =
      fields.map fun (k, v) => .list [.text k, v] := by
  rw [pairs, List.zipWith_map, List.zipWith_self]

/-- There are as many positions as elements. -/
lemma length_positions (count : Nat) : (positions count).length = count := by
  simp [positions]

end Value

namespace Script

open Value

variable {functions : Functions} {s t : Scope} {e : Expr} {v w : Value}

/-! ## Calls -/

/-- **A function of a namespace is called** with the values of its arguments, where no binding hides
the namespace. -/
theorem eval_callStatic {space property : String} {args : List Expr} {values : List Value}
    (hspace : isNamespace s space = true) (hproperty : isChanging property = false)
    (hargs : evalList functions args s = (.ok values, t))
    (hcall : callStatic space property values = .ok w) :
    eval functions (.call (.member (.name space) property false) args) s = (.ok w, t) := by
  refine eval_eq_ok_iff.2 ⟨some w, ?_, rfl⟩
  rw [evalChain_call_member, hproperty]
  show (if isNamespace s space then (evalList functions args >>= fun values => do
    return some (← Eval.ofExcept (callStatic space property values))) else _ :
      Eval (Option Value)) s = _
  rw [if_pos hspace, Process.bind_apply_ok hargs, hcall]
  rfl

/-- **A view of the value of an expression:** its keys, its values or its entries. -/
def viewOf (view : String) (e : Expr) : Expr := .call (.member (.name "Object") view false) [e]

/-- A view shows the value, where no binding hides the namespace. -/
lemma eval_viewOf {view : String} {items : List Value} (hname : s.get? "Object" = none)
    (hview : isChanging view = false) (he : eval functions e s = (.ok v, t))
    (hitems : callObject? view [v] = some (.list items)) :
    eval functions (viewOf view e) s = (.ok (.list items), t) := by
  have hspace : isNamespace s "Object" = true := by
    simp [isNamespace, Scope.contains, hname, namespaces]
  have hargs : evalList functions [e] s = (.ok [v], t) := by
    obtain ⟨x, hx, rfl⟩ := eval_eq_ok_iff.1 he
    rw [evalList, Process.bind_apply_ok hx]
    rfl
  refine eval_callStatic hspace hview hargs ?_
  rw [callStatic]
  simp only [hitems, Option.map_some, Option.getD_some]

/-- **On which values the views agree.**  In a scope in which the namespace is not hidden, let an
expression have a value.  Then it has keys, values and entries, and the keys are what a loop over
the keys visits.  There are as many values as keys unless the value is a text that is not empty; the
entries are the keys paired with the values unless the value is a list that is not empty.  In those
cases a text has no values, and neither lists nor texts have entries.

**Proof sketch.** Each view is a function applied to the value of the expression, which is evaluated
in the same scope.  Then the cases of the value: only a text has keys without values, and only a
list has values without entries. -/
theorem eval_views (hname : s.get? "Object" = none) (he : eval functions e s = (.ok v, t)) :
    ∃ ks xs es, eval functions (viewOf "keys" e) s = (.ok (.list ks), t) ∧
      eval functions (viewOf "values" e) s = (.ok (.list xs), t) ∧
      eval functions (viewOf "entries" e) s = (.ok (.list es), t) ∧
      ks = v.keys ∧
      (ks.length = xs.length ↔ ∀ x, v = .text x → x = "") ∧
      (es = pairs ks xs ↔ ∀ items, v = .list items → items = []) ∧
      (∀ x, v = .text x → xs = [] ∧ es = []) ∧
      (∀ items, v = .list items → xs = items ∧ es = []) := by
  refine ⟨_, _, _, eval_viewOf hname rfl he rfl, eval_viewOf hname rfl he rfl,
    eval_viewOf hname rfl he rfl, rfl, ?_⟩
  cases v with
  | null | bool | number => simp [keys, firstArgument, argument?, pairs]
  | object fields =>
    refine ⟨by simp [keys, firstArgument, argument?], ?_, nofun, nofun⟩
    exact iff_of_true (pairs_members fields).symm nofun
  | text x =>
    refine ⟨?_, iff_of_true (pairs_nil_right _).symm nofun, ?_, nofun⟩
    · show (positions x.length).length = 0 ↔ _
      rw [length_positions]
      simp
    · rintro _ ⟨⟩
      exact ⟨rfl, rfl⟩
  | list items =>
    refine ⟨iff_of_true (length_positions _) nofun, ?_, nofun, ?_⟩
    · show [] = pairs (positions items.length) items ↔ _
      rw [eq_comm, ← List.length_eq_zero_iff, length_pairs, length_positions, min_self]
      simp
    · rintro _ ⟨⟩
      exact ⟨rfl, rfl⟩

/-- An object with two members, in a scope with a frame. -/
theorem eval_views_object :
    let v : Value := .object [("a", .ofNat 1), ("b", .list [])]
    let s : Scope := { globals := [("a", .null)], frames := [{ vars := [("o", v)] }] }
    s.get? "Object" = none ∧ eval [] (.name "o") s = (.ok v, s) ∧
      ∃ ks xs es, eval [] (viewOf "keys" (.name "o")) s = (.ok (.list ks), s) ∧
        eval [] (viewOf "values" (.name "o")) s = (.ok (.list xs), s) ∧
        eval [] (viewOf "entries" (.name "o")) s = (.ok (.list es), s) ∧
        ks.length = xs.length ∧ es = pairs ks xs := by
  intro v s
  obtain ⟨ks, xs, es, hks, hxs, hes, -, hlength, hpairs, -⟩ :=
    @eval_views [] s s (.name "o") v rfl rfl
  exact ⟨rfl, rfl, ks, xs, es, hks, hxs, hes, hlength.2 nofun, hpairs.2 nofun⟩

/-- A list with an element has a key and a value but no entry, and a text with a character has a key
but no value. -/
theorem eval_views_sequences :
    let s : Scope := { globals := [("a", .list [.ofNat 1]), ("t", .text "x")] }
    eval [] (viewOf "keys" (.name "a")) s = (.ok (.list [.text "0"]), s) ∧
      eval [] (viewOf "values" (.name "a")) s = (.ok (.list [.ofNat 1]), s) ∧
      eval [] (viewOf "entries" (.name "a")) s = (.ok (.list []), s) ∧
      [] ≠ pairs [.text "0"] [.ofNat 1] ∧
      eval [] (viewOf "keys" (.name "t")) s = (.ok (.list [.text "0"]), s) ∧
      eval [] (viewOf "values" (.name "t")) s = (.ok (.list []), s) ∧
      [Value.text "0"].length ≠ ([] : List Value).length :=
  ⟨rfl, rfl, rfl, nofun, rfl, rfl, by decide⟩

end Script

end Stencil
