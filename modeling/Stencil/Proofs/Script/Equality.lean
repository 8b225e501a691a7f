import Mathlib.Data.List.Forall2
import Mathlib.Data.Option.Basic
import Stencil.Proofs.Decimal.Whole
import Stencil.Proofs.Script.Steps

/-!
# Equality without coercion

Two numbers are equal when they count the same, however they are stored.  Two lists or objects are
equal when they are stored alike.  So inside them a whole number and a double that count the same
are told apart, and nothing else changes when a value is replaced by an equal one.

## Main definitions

* `Stencil.Value.StoredApart` — two numbers that are stored differently.

## Main results

* `Stencil.Fields.forall₂_iff` — members in order are related one by one or key by key.
* `Stencil.Value.same_iff` — what is equal is stored alike, numbers apart.
* `Stencil.Value.same_putAt` — what a path leads to may be replaced by what is stored alike.
* `Stencil.Value.strictEquals_depth` — what equality means inside lists and objects, and where a
  value may be replaced by an equal one.

## Design

Neither relation is reflexive by its definition, since a NaN is equal to nothing.  Both are
symmetric and transitive, and that is enough for all that is said of replacing.
-/

set_option relaxedAutoImplicit false
set_option autoImplicit false

namespace Stencil

/-! ## Numbers -/

namespace Number

variable {m n k : Number}

/-- Equality of numbers as they are stored is symmetric. -/
lemma equal_symm (h : m.equal n = true) : n.equal m = true := by
  cases m <;> cases n <;> simp only [equal, Bool.false_eq_true] at h ⊢
  · exact beq_iff_eq.2 (beq_iff_eq.1 h).symm
  · exact BEq.symm h

/-- It is transitive. -/
lemma equal_trans (hmn : m.equal n = true) (hnk : n.equal k = true) : m.equal k = true := by
  cases m <;> cases n <;> simp only [equal, Bool.false_eq_true] at hmn <;>
    cases k <;> simp only [equal, Bool.false_eq_true] at hnk ⊢
  · exact beq_iff_eq.2 ((beq_iff_eq.1 hmn).trans (beq_iff_eq.1 hnk))
  · exact BEq.trans hmn hnk

/-- Numbers that are stored alike count the same. -/
lemma toFloat_beq_of_equal (h : m.equal n = true) : (m.toFloat == n.toFloat) = true := by
  cases m <;> cases n <;> simp only [equal, Bool.false_eq_true] at h
  · rw [beq_iff_eq.1 h]
    exact Decimal.ofInt_beq_self _
  · exact h

end Number

/-! ## Members -/

namespace Fields

variable {α β : Type} {key : String} {xs : Fields α} {ys : Fields β}

/-- A key before all others holds nothing. -/
lemma get?_eq_none (h : ∀ entry ∈ xs, key < entry.1) : get? key xs = none := by
  rw [Option.eq_none_iff_forall_ne_some]
  exact fun x hx => String.lt_irrefl key (h _ (mem_of_get? hx))

/-- A key that holds something does not come before the first one. -/
lemma not_lt_of_get? {first : String} {x : α} (hfirst : ∀ entry ∈ xs, first < entry.1)
    (h : (get? key ((first, x) :: xs)).isSome = true) : ¬ key < first := fun hlt => by
  have hall : ∀ entry ∈ (first, x) :: xs, key < entry.1 :=
    List.forall_mem_cons.2 ⟨hlt, fun entry he => String.lt_trans hlt (hfirst entry he)⟩
  rw [get?_eq_none hall] at h
  cases h

/-- Members that are related one by one are related key by key. -/
lemma rel_get? {R : α → β → Prop} (h : List.Forall₂ (fun e f => e.1 = f.1 ∧ R e.2 f.2) xs ys)
    (key : String) : Option.Rel R (get? key xs) (get? key ys) := by
  induction h with
  | nil => exact .none
  | @cons e f _ _ hhead _ ih =>
    obtain ⟨j, x⟩ := e
    obtain ⟨k, y⟩ := f
    obtain ⟨rfl, hxy⟩ := hhead
    simp only [get?]
    split
    · exact .some hxy
    · exact ih

/-- Of two related values that may be missing, both are there or none is. -/
lemma isSome_eq_of_rel {R : α → β → Prop} {m : Option α} {n : Option β} (h : Option.Rel R m n) :
    m.isSome = n.isSome := by
  cases h <;> rfl

/-- **Members in order are related one by one** when they are related key by key.

**Proof sketch.** One direction is induction on the relation.  For the other one, induction on the
first list: the first key of either list is held by both, so neither is smaller than the other, and
no later member has it. -/
theorem forall₂_iff {R : α → β → Prop} (hxs : xs.Pairwise (·.1 < ·.1))
    (hys : ys.Pairwise (·.1 < ·.1)) :
    List.Forall₂ (fun e f => e.1 = f.1 ∧ R e.2 f.2) xs ys ↔
      ∀ key, Option.Rel R (get? key xs) (get? key ys) := by
  refine ⟨rel_get?, fun h => ?_⟩
  induction xs generalizing ys with
  | nil =>
    cases ys with
    | nil => exact .nil
    | cons f ys => simpa [get?] using h f.1
  | cons e xs ih =>
    obtain ⟨j, x⟩ := e
    obtain ⟨hj, hxrest⟩ := List.pairwise_cons.1 hxs
    cases ys with
    | nil => simpa [get?] using h j
    | cons f ys =>
      obtain ⟨k, y⟩ := f
      obtain ⟨hk, hyrest⟩ := List.pairwise_cons.1 hys
      -- both begin with the same key, since either holds something on both sides
      have hpresent key := isSome_eq_of_rel (h key)
      have hjk : ¬ j < k := not_lt_of_get? (x := y) hk (by rw [← hpresent]; simp [get?])
      have hkj : ¬ k < j := not_lt_of_get? (x := x) hj (by rw [hpresent]; simp [get?])
      obtain rfl : j = k := String.le_antisymm (String.not_lt.1 hkj) (String.not_lt.1 hjk)
      refine .cons ⟨rfl, by simpa [get?] using h j⟩ (ih hxrest hyrest fun key => ?_)
      by_cases hkey : j = key
      · subst hkey
        rw [get?_eq_none hj, get?_eq_none hk]
        exact .none
      · simpa [get?, hkey] using h key

end Fields

namespace Value

open Script

variable {a b c : Value}

mutual

/-- To be stored alike is symmetric. -/
lemma same_symm {a b : Value} (h : same a b = true) : same b a = true := by
  match a, b, h with
  | .null, .null, _ => rfl
  | .bool x, .bool y, h => exact beq_iff_eq.2 (beq_iff_eq.1 h).symm
  | .number m, .number n, h => exact Number.equal_symm h
  | .text s, .text t, h => exact beq_iff_eq.2 (beq_iff_eq.1 h).symm
  | .list xs, .list ys, h => exact sameList_symm h
  | .object xs, .object ys, h => exact sameFields_symm h

/-- So it is for lists. -/
lemma sameList_symm {xs ys : List Value} (h : sameList xs ys = true) : sameList ys xs = true := by
  match xs, ys, h with
  | [], [], _ => rfl
  | x :: xs, y :: ys, h =>
    obtain ⟨hhead, htail⟩ := Bool.and_eq_true_iff.1 h
    exact Bool.and_eq_true_iff.2 ⟨same_symm hhead, sameList_symm htail⟩

/-- So it is for members. -/
lemma sameFields_symm {xs ys : List (String × Value)} (h : sameFields xs ys = true) :
    sameFields ys xs = true := by
  match xs, ys, h with
  | [], [], _ => rfl
  | (j, x) :: xs, (k, y) :: ys, h =>
    simp only [sameFields, Bool.and_eq_true, beq_iff_eq] at h ⊢
    obtain ⟨⟨hkey, hhead⟩, htail⟩ := h
    exact ⟨⟨hkey.symm, same_symm hhead⟩, sameFields_symm htail⟩

end

mutual

/-- To be stored alike is transitive. -/
lemma same_trans {a b c : Value} (hab : same a b = true) (hbc : same b c = true) :
    same a c = true := by
  match a, b, c, hab, hbc with
  | .null, .null, .null, _, _ => rfl
  | .bool x, .bool y, .bool z, hab, hbc =>
    exact beq_iff_eq.2 ((beq_iff_eq.1 hab).trans (beq_iff_eq.1 hbc))
  | .number m, .number n, .number k, hab, hbc => exact Number.equal_trans hab hbc
  | .text s, .text t, .text u, hab, hbc =>
    exact beq_iff_eq.2 ((beq_iff_eq.1 hab).trans (beq_iff_eq.1 hbc))
  | .list xs, .list ys, .list zs, hab, hbc => exact sameList_trans hab hbc
  | .object xs, .object ys, .object zs, hab, hbc => exact sameFields_trans hab hbc

/-- So it is for lists. -/
lemma sameList_trans {xs ys zs : List Value} (hxy : sameList xs ys = true)
    (hyz : sameList ys zs = true) : sameList xs zs = true := by
  match xs, ys, zs, hxy, hyz with
  | [], [], [], _, _ => rfl
  | x :: xs, y :: ys, z :: zs, hxy, hyz =>
    obtain ⟨hhead, htail⟩ := Bool.and_eq_true_iff.1 hxy
    obtain ⟨hhead', htail'⟩ := Bool.and_eq_true_iff.1 hyz
    exact Bool.and_eq_true_iff.2 ⟨same_trans hhead hhead', sameList_trans htail htail'⟩

/-- So it is for members. -/
lemma sameFields_trans {xs ys zs : List (String × Value)} (hxy : sameFields xs ys = true)
    (hyz : sameFields ys zs = true) : sameFields xs zs = true := by
  match xs, ys, zs, hxy, hyz with
  | [], [], [], _, _ => rfl
  | (j, x) :: xs, (k, y) :: ys, (l, z) :: zs, hxy, hyz =>
    simp only [sameFields, Bool.and_eq_true, beq_iff_eq] at hxy hyz ⊢
    obtain ⟨⟨hkey, hhead⟩, htail⟩ := hxy
    obtain ⟨⟨hkey', hhead'⟩, htail'⟩ := hyz
    exact ⟨⟨hkey.trans hkey', same_trans hhead hhead'⟩, sameFields_trans htail htail'⟩

end

/-- What is stored alike compares alike. -/
lemma same_congr (h : same a b = true) (c : Value) : same a c = same b c :=
  Bool.eq_iff_iff.2 ⟨same_trans (same_symm h), same_trans h⟩

/-! ## Equality without coercion -/

/-- Beside anything but numbers, equal is what is stored alike. -/
lemma strictEquals_eq_same (h : ∀ n, a ≠ .number n) (b : Value) : strictEquals a b = same a b := by
  cases a with
  | number n => exact absurd rfl (h n)
  | _ => rfl

/-- What is equal to a number is a number that counts the same. -/
lemma exists_number_of_strictEquals {m : Number} (h : strictEquals (.number m) b = true) :
    ∃ n, b = .number n ∧ (m.toFloat == n.toFloat) = true := by
  cases b with
  | number n => exact ⟨n, rfl, h⟩
  | _ => cases h

/-- What is stored alike is equal. -/
lemma strictEquals_of_same (h : same a b = true) : strictEquals a b = true := by
  cases a with
  | number m =>
    cases b with
    | number n => exact Number.toFloat_beq_of_equal h
    | _ => cases h
  | _ => exact h

/-- Equality without coercion is symmetric. -/
lemma strictEquals_symm (h : strictEquals a b = true) : strictEquals b a = true := by
  cases a with
  | number m =>
    obtain ⟨n, rfl, hmn⟩ := exists_number_of_strictEquals h
    exact BEq.symm hmn
  | _ => exact strictEquals_of_same (same_symm h)

/-- It is transitive. -/
lemma strictEquals_trans (hab : strictEquals a b = true) (hbc : strictEquals b c = true) :
    strictEquals a c = true := by
  cases a with
  | number m =>
    obtain ⟨n, rfl, hmn⟩ := exists_number_of_strictEquals hab
    obtain ⟨k, rfl, hnk⟩ := exists_number_of_strictEquals hbc
    exact BEq.trans hmn hnk
  | _ =>
    have hb : ∀ n, b ≠ .number n := by
      rintro n rfl
      cases hab
    rw [strictEquals_eq_same hb] at hbc
    exact same_trans hab hbc

/-- What is equal compares alike. -/
lemma strictEquals_congr_left (h : strictEquals a b = true) (c : Value) :
    strictEquals a c = strictEquals b c :=
  Bool.eq_iff_iff.2 ⟨strictEquals_trans (strictEquals_symm h), strictEquals_trans h⟩

/-- What is equal compares alike, on both sides. -/
lemma strictEquals_congr {a' b' : Value} (ha : strictEquals a a' = true)
    (hb : strictEquals b b' = true) : strictEquals a b = strictEquals a' b' := by
  rw [strictEquals_congr_left ha]
  exact Bool.eq_iff_iff.2
    ⟨fun h => strictEquals_trans h hb, fun h => strictEquals_trans h (strictEquals_symm hb)⟩

/-- **Two numbers that are stored differently.** -/
def StoredApart (a b : Value) : Prop := ∃ m n, a = .number m ∧ b = .number n ∧ m.equal n = false

/-- **What is equal is stored alike,** numbers apart. -/
lemma same_iff : same a b = true ↔ strictEquals a b = true ∧ ¬ StoredApart a b := by
  constructor
  · refine fun h => ⟨strictEquals_of_same h, ?_⟩
    rintro ⟨m, n, rfl, rfl, hapart⟩
    exact Bool.false_ne_true (hapart.symm.trans h)
  · rintro ⟨h, hstored⟩
    cases a with
    | number m =>
      obtain ⟨n, rfl, -⟩ := exists_number_of_strictEquals h
      exact Bool.of_not_eq_false fun hapart => hstored ⟨m, n, rfl, rfl, hapart⟩
    | _ => exact h

/-! ## Lists and objects -/

/-- Lists are stored alike if their elements are, one by one. -/
lemma sameList_iff {xs ys : List Value} :
    sameList xs ys = true ↔ List.Forall₂ (fun x y => same x y = true) xs ys := by
  induction xs generalizing ys with
  | nil => cases ys <;> simp [sameList]
  | cons x xs ih => cases ys <;> simp [sameList, ih]

/-- Objects are stored alike if they have the same keys and their members are stored alike. -/
lemma sameFields_iff {xs ys : Fields Value} :
    sameFields xs ys = true ↔
      List.Forall₂ (fun e f => e.1 = f.1 ∧ same e.2 f.2 = true) xs ys := by
  induction xs generalizing ys with
  | nil => cases ys <;> simp [sameFields]
  | cons x xs ih => cases ys <;> simp [sameFields, ih]

/-! ## Replacing -/

variable {v w x x' : Value} {keys : List Value} {step : Step}

/-- An element may be replaced by one that compares alike. -/
lemma sameList_set (h : ∀ y, same x' y = same x y) {items : List Value} {i : Nat}
    (hi : items[i]? = some x) (ys : List Value) :
    sameList (items.set i x') ys = sameList items ys := by
  induction items generalizing i ys with
  | nil => cases hi
  | cons z items ih =>
    cases ys with
    | nil => cases i <;> rfl
    | cons y ys =>
      cases i with
      | zero =>
        cases hi
        simp only [List.set_cons_zero, sameList, h]
      | succ i => simp only [List.set_cons_succ, sameList, ih hi]

/-- What a key holds may be replaced by what compares alike. -/
lemma sameFields_insert (h : ∀ y, same x' y = same x y) {fields : Fields Value} {key : String}
    (hsorted : fields.Pairwise (·.1 < ·.1)) (hkey : Fields.get? key fields = some x)
    (ys : Fields Value) : sameFields (Fields.insert key x' fields) ys = sameFields fields ys := by
  induction fields generalizing ys with
  | nil => cases hkey
  | cons entry fields ih =>
    obtain ⟨k, z⟩ := entry
    obtain ⟨hhead, hsorted⟩ := List.pairwise_cons.1 hsorted
    simp only [Fields.get?] at hkey
    split at hkey
    · next hk =>
      cases hkey
      cases ys <;> simp [Fields.insert, hk, sameFields, h]
    · next hk =>
      have hlt : k < key := hhead _ (Fields.mem_of_get? hkey)
      rw [Fields.insert, if_neg hk, if_neg (String.lt_asymm hlt)]
      cases ys <;> simp [sameFields, ih hsorted hkey]

/-- What a step leads to may be replaced by what compares alike.

**Proof sketch.** The cases of the value and of the step.  The element or the member is compared
with that of the same place on the other side, and all others are as before. -/
lemma same_put (hv : v.Regular) (h : ∀ y, same x' y = same x y) (hx : v.member? step = some x)
    (w : Value) : same (v.put step x') w = same v w := by
  cases hv with
  | list _ =>
    cases step with
    | field => cases hx
    | element i =>
      have hi : i < _ := (List.getElem?_eq_some_iff.1 hx).1
      cases w with
      | list ys =>
        simp only [put, setElement, if_pos hi]
        exact sameList_set h hx ys
      | _ => rfl
  | object hsorted _ =>
    cases step with
    | element => cases hx
    | field key =>
      cases w with
      | object ys => exact sameFields_insert h hsorted hx ys
      | _ => rfl
  | _ => cases step <;> cases hx

/-- What a path leads to may be replaced by what compares alike. -/
lemma same_putAt (hv : v.Regular) (h : ∀ y, same x' y = same x y) (hx : v.at? keys = some x)
    (w : Value) : same (putAt keys x' v) w = same v w := by
  induction keys generalizing v w with
  | nil =>
    cases hx
    exact h w
  | cons key keys ih =>
    obtain ⟨step, c, hstep, hc, hx⟩ := at?_cons_eq_some_iff.1 hx
    rw [putAt, child?_eq_some_iff.2 ⟨step, hstep, hc⟩]
    dsimp only
    rw [putChild_eq_put hstep hc, same_put hv (ih (hv.member? hc) hx) hc]

/-- Elements of lists that are stored alike are stored alike. -/
lemma rel_getElem? {xs ys : List Value} (h : sameList xs ys = true) (i : Nat) :
    Option.Rel (fun x y => same x y = true) xs[i]? ys[i]? := by
  rw [sameList_iff] at h
  induction h generalizing i with
  | nil => exact .none
  | cons hhead _ ih =>
    cases i with
    | zero => exact .some hhead
    | succ i => exact ih i

/-- What a step leads to in values that are stored alike is stored alike. -/
lemma same_member? (h : same v w = true) (step : Step) :
    Option.Rel (fun x y => same x y = true) (v.member? step) (w.member? step) := by
  match v, w, step, h with
  | .list xs, .list ys, .element i, h => exact rel_getElem? h i
  | .object xs, .object ys, .field key, h => exact Fields.rel_get? (sameFields_iff.1 h) key
  | .list _, .list _, .field _, _ | .object _, .object _, .element _, _ => exact .none
  | .null, .null, _, _ | .bool _, .bool _, _, _ | .number _, .number _, _, _
  | .text _, .text _, _, _ => exact .none

/-- A key stands for one step in values that are stored alike. -/
lemma step?_of_same (h : same v w = true) (key : Value) : v.step? key = w.step? key := by
  cases v <;> cases w <;> first | rfl | cases h

/-- What a path leads to in values that are stored alike is stored alike. -/
lemma same_at? {y : Value} (h : same v w = true) (hx : v.at? keys = some x)
    (hy : w.at? keys = some y) : same x y = true := by
  induction keys generalizing v w with
  | nil =>
    cases hx
    cases hy
    exact h
  | cons key keys ih =>
    obtain ⟨step, c, hstep, hc, hx⟩ := at?_cons_eq_some_iff.1 hx
    obtain ⟨step', d, hstep', hd, hy⟩ := at?_cons_eq_some_iff.1 hy
    obtain rfl : step = step' := by
      rw [step?_of_same h, hstep'] at hstep
      exact (Option.some.inj hstep).symm
    have hcd := same_member? h step
    rw [hc, hd, Option.rel_some_some] at hcd
    exact ih hcd hx hy

/-- What is put at the end of a path is there. -/
lemma at?_putAt (hx : v.at? keys = some x) (new : Value) :
    (putAt keys new v).at? keys = some new := by
  induction keys generalizing v with
  | nil => rfl
  | cons key keys ih =>
    obtain ⟨step, c, hstep, hc, hx⟩ := at?_cons_eq_some_iff.1 hx
    rw [putAt, child?_eq_some_iff.2 ⟨step, hstep, hc⟩]
    dsimp only
    rw [putChild_eq_put hstep hc]
    exact at?_cons_eq_some_iff.2
      ⟨step, _, (step?_put ..).trans hstep, member?_put_same hstep _, ih hx⟩

/-- Nothing is inside a number. -/
lemma ne_number_of_at? (hkeys : keys ≠ []) (hx : v.at? keys = some x) (n : Number) :
    v ≠ .number n := by
  rintro rfl
  cases keys with
  | nil => exact hkeys rfl
  | cons key keys =>
    obtain ⟨step, c, hstep, -⟩ := at?_cons_eq_some_iff.1 hx
    cases hstep

/-! ## Searching -/

/-- A value is found among equal values at the same place. -/
lemma indexOf?_congr {items items' : List Value} {a a' : Value}
    (h : List.Forall₂ (fun x y => strictEquals x y = true) items items')
    (ha : strictEquals a a' = true) : indexOf? items a = indexOf? items' a' := by
  unfold indexOf?
  induction h with
  | nil => rfl
  | cons hhead _ ih => simp only [List.findIdx?_cons, strictEquals_congr hhead ha, ih]

/-- A value is found among equal values or not found in either. -/
lemma any_strictEquals_congr {items items' : List Value} {a a' : Value}
    (h : List.Forall₂ (fun x y => strictEquals x y = true) items items')
    (ha : strictEquals a a' = true) :
    (items.any fun item => strictEquals item a) = items'.any fun item => strictEquals item a' := by
  induction h with
  | nil => rfl
  | cons hhead _ ih => simp only [List.any_cons, strictEquals_congr hhead ha, ih]

/-- What the method that looks for an element gives. -/
lemma callMethod_includes (items : List Value) (a : Value) :
    callMethod (.list items) "includes" [a] =
      .ok (.bool (items.any fun item => strictEquals item a)) := rfl

/-- What the method that looks for the position of an element gives. -/
lemma callMethod_indexOf (items : List Value) (a : Value) :
    callMethod (.list items) "indexOf" [a] =
      .ok (((indexOf? items a).map ofNat).getD (ofInt (-1))) := by
  have hmethod : listMethod? items "indexOf" [a] =
      some (((indexOf? items a).map ofNat).getD (ofInt (-1))) := by
    have hargument : firstArgument [a] = a := rfl
    cases hfound : indexOf? items a <;> simp [listMethod?, hargument, hfound]
  simp only [callMethod, hmethod]

/-! ## Equality at every depth -/

/-- **Equality at every depth.**

1. Two lists are equal when they are as long as each other and their elements are equal one by one,
   and none of these are two numbers that are stored differently.
2. Two objects are equal when they have the same keys and what each key holds is equal, and not two
   numbers that are stored differently.
3. Equal values compare alike.
4. Equal values are found alike: the elements of a list and what is looked for may be replaced by
   equal ones.
5. What a path leads to may be replaced by something equal without changing any comparison, if the
   path is empty or these are not two numbers that are stored differently.  If they are, the value
   is not equal to what it was.

**Proof sketch.** Inside lists and objects, values are equal when they are stored alike, which is
symmetric and transitive (`same_symm`, `same_trans`) and, numbers apart, the same as to be equal
(`same_iff`). -/
theorem strictEquals_depth (xs ys : List Value) (fs gs : Fields Value) (a a' : Value) :
    (strictEquals (.list xs) (.list ys) = true ↔
      List.Forall₂ (fun x y => strictEquals x y = true ∧ ¬ StoredApart x y) xs ys) ∧
    (fs.Pairwise (·.1 < ·.1) → gs.Pairwise (·.1 < ·.1) →
      (strictEquals (.object fs) (.object gs) = true ↔
        ∀ key, Option.Rel (fun x y => strictEquals x y = true ∧ ¬ StoredApart x y)
          (Fields.get? key fs) (Fields.get? key gs))) ∧
    (strictEquals a a' = true → ∀ b b' : Value, strictEquals b b' = true →
      strictEquals a b = strictEquals a' b') ∧
    (strictEquals a a' = true →
      List.Forall₂ (fun x y => strictEquals x y = true) xs ys →
        callMethod (.list xs) "includes" [a] = callMethod (.list ys) "includes" [a'] ∧
        callMethod (.list xs) "indexOf" [a] = callMethod (.list ys) "indexOf" [a']) ∧
    (strictEquals a a' = true →
      ∀ (v : Value) (keys : List Value), v.Regular → v.at? keys = some a →
        (keys = [] ∨ ¬ StoredApart a a' →
          ∀ w, strictEquals (putAt keys a' v) w = strictEquals v w) ∧
        (keys ≠ [] → StoredApart a a' → strictEquals (putAt keys a' v) v = false)) := by
  refine ⟨?_, fun hfs hgs => ?_, fun ha _ _ hb => strictEquals_congr ha hb,
    fun ha h => ⟨?_, ?_⟩, fun hequal v keys hv hx => ⟨fun hkeys w => ?_, fun hkeys hapart => ?_⟩⟩
  · simp only [← same_iff]
    exact sameList_iff
  · simp only [← same_iff]
    exact sameFields_iff.trans (Fields.forall₂_iff (R := fun x y => same x y = true) hfs hgs)
  · rw [callMethod_includes, callMethod_includes, any_strictEquals_congr h ha]
  · rw [callMethod_indexOf, callMethod_indexOf, indexOf?_congr h ha]
  · by_cases hnil : keys = []
    · subst hnil
      cases hx
      exact strictEquals_congr_left (strictEquals_symm hequal) w
    · have hsame := same_iff.2 ⟨hequal, hkeys.resolve_left hnil⟩
      rw [strictEquals_eq_same (ne_number_of_at? hnil hx),
        strictEquals_eq_same (ne_number_of_at? hnil (at?_putAt hx a'))]
      exact same_putAt hv (same_congr (same_symm hsame)) hx w
  · rw [strictEquals_eq_same (ne_number_of_at? hkeys (at?_putAt hx a')), Bool.eq_false_iff]
    intro h
    exact (same_iff.1 (same_symm (same_at? h (at?_putAt hx a') hx))).2 hapart

/-- A whole number beside the double that counts the same, in a list in an object. -/
theorem strictEquals_depth_mixed :
    let one : Value := .number (.integer 1)
    let double : Value := .number (.float 1.0)
    let items : List Value := [.text "x", one]
    let v : Value := .object [("a", .list items), ("b", one)]
    let keys : List Value := [.text "a", .ofNat 1]
    strictEquals one double = true ∧ StoredApart one double ∧
      strictEquals (.list items) (.list items) = true ∧
      callMethod (.list items) "indexOf" [one] =
        callMethod (.list [.text "x", double]) "indexOf" [double] ∧
      strictEquals (.object [("b", one)]) (.object [("b", one)]) = true ∧
      strictEquals one double = strictEquals double one ∧
      v.Regular ∧ v.at? keys = some one ∧
      strictEquals (putAt keys double v) v = false ∧
      ∀ w, strictEquals (putAt keys one v) w = strictEquals v w := by
  intro one double items v keys
  have hequal : strictEquals one double = true := by decide
  have hself : strictEquals one one = true := by decide
  have hapart : StoredApart one double := ⟨_, _, rfl, rfl, rfl⟩
  have hstored : ¬ StoredApart one one := by
    rintro ⟨m, n, hm, hn, h⟩
    cases Value.number.inj hm
    cases Value.number.inj hn
    cases h
  have htext : ¬ StoredApart (.text "x") (.text "x") := by
    rintro ⟨m, n, hm, -⟩
    cases hm
  have hregular : v.Regular := by
    refine .object (List.pairwise_pair.2 (by decide)) ?_
    simpa using ⟨Regular.list (by simpa [items] using ⟨.text "x", .number _⟩), .number _⟩
  have hat : v.at? keys = some one := rfl
  obtain ⟨hlist, hobject, -⟩ := strictEquals_depth items items [("b", one)] [("b", one)] one one
  obtain ⟨-, -, hcompare, hfind, hreplace⟩ :=
    strictEquals_depth items [.text "x", double] [] [] one double
  obtain ⟨-, -, -, -, hkeep⟩ := strictEquals_depth [] [] [] [] one one
  have hmember (key : String) : Option.Rel (fun x y => strictEquals x y = true ∧ ¬ StoredApart x y)
      (Fields.get? key [("b", one)]) (Fields.get? key [("b", one)]) := by
    simp only [Fields.get?]
    split
    · exact .some ⟨hself, hstored⟩
    · exact .none
  have hfound : List.Forall₂ (fun x y => strictEquals x y = true) items [.text "x", double] :=
    .cons rfl (.cons hequal .nil)
  exact ⟨hequal, hapart, hlist.2 (.cons ⟨rfl, htext⟩ (.cons ⟨hself, hstored⟩ .nil)),
    (hfind hequal hfound).2,
    (hobject (List.pairwise_singleton _ _) (List.pairwise_singleton _ _)).2 hmember,
    hcompare hequal _ _ (strictEquals_symm hequal), hregular, hat,
    (hreplace hequal v keys hregular hat).2 (List.cons_ne_nil _ _) hapart,
    (hkeep hself v keys hregular hat).1 (.inr hstored)⟩

/-- Lists and objects are not equal although what they hold is: a whole number and a double that
count the same, or two whole numbers with the same nearest double. -/
theorem strictEquals_depth_apart :
    let one : Value := .number (.integer 1)
    let double : Value := .number (.float 1.0)
    let large : Value := .number (.integer (2 ^ 53))
    let larger : Value := .number (.integer (2 ^ 53 + 1))
    strictEquals one double = true ∧ strictEquals (.list [one]) (.list [double]) = false ∧
      strictEquals (.object [("a", one)]) (.object [("a", double)]) = false ∧
      strictEquals large larger = true ∧ strictEquals (.list [large]) (.list [larger]) = false := by
  decide

end Value

end Stencil
