import Mathlib.Tactic.Lemma
import Stencil.Script.Eval

/-!
# Steps into values

A path of keys takes steps into objects and lists.  Looking a path up, reading along it and writing
at its end use three different functions on the keys.  Each of them is brought down to steps here,
and the laws of reading and writing are proved of steps.

## Main definitions

* `Stencil.Value.Step` — a step into an object or a list.
* `Stencil.Value.step?` — the step that a key stands for.
* `Stencil.Value.member?`, `Stencil.Value.put` — what is behind a step, and another value put there.
* `Stencil.Value.steps?` — the steps that a path of keys takes.
* `Stencil.Value.write` — a value with another one put behind some steps.
* `Stencil.Value.Regular` — a value in which the members of every object are in order.

## Main results

* `Stencil.Value.at?_write_same`, `Stencil.Value.at?_write_other` — what is written is there, and
  other places are left.
* `Stencil.Value.Regular.putAt_self` — to put what is there changes nothing.

## Design

Different keys may stand for one step: `"1"`, `1` and `1.0` all lead to the second element of a
list.  So it is the steps that tell whether two paths part, not the keys.
-/

set_option relaxedAutoImplicit false
set_option autoImplicit false

namespace Stencil

/-! ## Members -/

namespace Fields

variable {α : Type} {key : String} {value : α} {fields : Fields α}

/-- What a key holds is a member. -/
lemma mem_of_get? (h : get? key fields = some value) : (key, value) ∈ fields := by
  induction fields with
  | nil => cases h
  | cons entry rest ih =>
    obtain ⟨k, v⟩ := entry
    simp only [get?] at h
    split at h
    · next hk =>
      subst hk
      cases h
      exact List.mem_cons_self
    · exact List.mem_cons_of_mem _ (ih h)

/-- To insert what is there changes nothing, if the keys are in order. -/
lemma insert_self (hsorted : fields.Pairwise (·.1 < ·.1)) (h : get? key fields = some value) :
    insert key value fields = fields := by
  induction fields with
  | nil => cases h
  | cons entry rest ih =>
    obtain ⟨k, v⟩ := entry
    obtain ⟨hhead, hrest⟩ := List.pairwise_cons.1 hsorted
    simp only [get?] at h
    split at h
    · next hk =>
      subst hk
      cases h
      simp [insert]
    · next hk =>
      have hlt : k < key := hhead _ (mem_of_get? h)
      rw [insert, if_neg hk, if_neg (String.lt_asymm hlt), ih hrest h]

/-- What a key holds when a key has been set. -/
lemma get?_insert (key other : String) (value : α) (fields : Fields α) :
    get? other (insert key value fields) =
      if other = key then some value else get? other fields := by
  split
  · next h => rw [h, get?_insert_same]
  · next h => rw [get?_insert_other h]

/-- What is a member when a key has been set. -/
lemma mem_insert {entry : String × α} (h : entry ∈ insert key value fields) :
    entry = (key, value) ∨ entry ∈ fields := by
  induction fields with
  | nil => exact .inl (List.mem_singleton.1 h)
  | cons first rest ih =>
    simp only [insert] at h
    split at h
    · exact (List.mem_cons.1 h).imp_right (List.mem_cons_of_mem first)
    · split at h
      · exact List.mem_cons.1 h
      · rcases List.mem_cons.1 h with rfl | hrest
        · exact .inr List.mem_cons_self
        · exact (ih hrest).imp_right (List.mem_cons_of_mem first)

/-- An insertion keeps keys in order.

**Proof sketch.** Induction on the members.  The new key is put in front of the first key that is
larger, or in the place of the same one. -/
lemma pairwise_insert (hsorted : fields.Pairwise (·.1 < ·.1)) (key : String) (value : α) :
    (insert key value fields).Pairwise (·.1 < ·.1) := by
  induction fields with
  | nil => exact List.pairwise_singleton _ _
  | cons entry rest ih =>
    obtain ⟨k, v⟩ := entry
    obtain ⟨hhead, hrest⟩ := List.pairwise_cons.1 hsorted
    simp only [insert]
    split
    · next hk =>
      subst hk
      exact List.pairwise_cons.2 ⟨hhead, hrest⟩
    · split
      · next hlt =>
        refine List.pairwise_cons.2 ⟨fun e he => ?_, hsorted⟩
        rcases List.mem_cons.1 he with rfl | he
        · exact hlt
        · exact String.lt_trans hlt (hhead e he)
      · next hk hle =>
        have hlt : k < key :=
          String.not_le.1 fun hge => hk (String.le_antisymm (String.not_lt.1 hle) hge)
        refine List.pairwise_cons.2 ⟨fun e he => ?_, ih hrest⟩
        rcases mem_insert he with rfl | he
        · exact hlt
        · exact hhead e he

end Fields

namespace Value

open Script

variable {v w x c key new : Value} {keys keys' : List Value}

/-! ## Steps -/

/-- **A step into a value.** -/
inductive Step where
  /-- To a member of an object. -/
  | field (name : String)
  /-- To an element of a list. -/
  | element (position : Nat)
  deriving DecidableEq

/-- **The step that a key stands for** in a value: there are steps into objects and lists only. -/
def step? (v key : Value) : Option Step :=
  match v with
  | .object _ => some (.field key.propertyKey)
  | .list _ => key.arrayIndex?.map .element
  | _ => none

/-- **What a step leads to,** if it is there. -/
def member? (v : Value) (step : Step) : Option Value :=
  match v, step with
  | .object fields, .field name => Fields.get? name fields
  | .list items, .element i => items[i]?
  | _, _ => none

/-- **A value with another one put where a step leads.** -/
def put (v : Value) (step : Step) (new : Value) : Value :=
  match v, step with
  | .object fields, .field name => .object (Fields.insert name new fields)
  | .list items, .element i => .list (setElement items i new)
  | v, _ => v

variable {step other : Step}

/-- A key of a path leads where its step leads. -/
lemma child?_eq (v key : Value) : v.child? key = (v.step? key).bind v.member? := by
  cases v with
  | list items => cases h : key.arrayIndex? <;> simp [child?, step?, member?, h]
  | _ => rfl

/-- What a key leads to is behind its step. -/
lemma child?_eq_some_iff :
    v.child? key = some c ↔ ∃ step, v.step? key = some step ∧ v.member? step = some c := by
  rw [child?_eq, Option.bind_eq_some_iff]

/-- What is put into a value does not change what keys stand for. -/
@[simp]
lemma step?_put (v : Value) (step : Step) (new key : Value) :
    (v.put step new).step? key = v.step? key := by
  cases v <;> cases step <;> rfl

/-- An element that is set is there. -/
lemma getElem?_setElement_same (items : List Value) (i : Nat) (new : Value) :
    (setElement items i new)[i]? = some new := by
  unfold setElement
  split
  · next hi => exact List.getElem?_set_self hi
  · next hi =>
    have hlength : (items ++ List.replicate (i - items.length) Value.null).length = i := by
      simp only [List.length_append, List.length_replicate]
      omega
    rw [List.getElem?_append_right (by omega), hlength, Nat.sub_self]
    rfl

/-- Other elements stay. -/
lemma getElem?_setElement_other {items : List Value} {i j : Nat} (hne : j ≠ i)
    (h : items[j]? = some c) (new : Value) : (setElement items i new)[j]? = some c := by
  obtain ⟨hj, -⟩ := List.getElem?_eq_some_iff.1 h
  unfold setElement
  split
  · rwa [List.getElem?_set_ne hne.symm]
  · rwa [List.append_assoc, List.getElem?_append_left hj]

/-- What is put where the step of a key leads is there. -/
lemma member?_put_same (h : v.step? key = some step) (new : Value) :
    (v.put step new).member? step = some new := by
  cases v with
  | object fields =>
    cases h
    exact Fields.get?_insert_same _ _ _
  | list items =>
    obtain ⟨i, -, rfl⟩ := Option.map_eq_some_iff.1 h
    exact getElem?_setElement_same items i new
  | _ => cases h

/-- What is put where a step leads leaves what is behind other steps. -/
lemma member?_put_other (hne : other ≠ step) (h : v.member? other = some c) (new : Value) :
    (v.put step new).member? other = some c := by
  cases v with
  | object fields =>
    cases step with
    | element => exact h
    | field name =>
      cases other with
      | element => cases h
      | field name' =>
        exact (Fields.get?_insert_other (fun e => hne (congrArg _ e)) new fields).trans h
  | list items =>
    cases step with
    | field => exact h
    | element i =>
      cases other with
      | field => cases h
      | element j => exact getElem?_setElement_other (fun e => hne (congrArg _ e)) h new
  | _ => cases h

/-! ## Paths of steps -/

/-- **The steps that a path of keys takes** from a value, if there is one.  The last of them need
not lead anywhere. -/
def steps? : List Value → Option Value → Option (List Step)
  | [], _ => some []
  | _ :: _, none => none
  | key :: keys, some v =>
    (v.step? key).bind fun step => (steps? keys (v.member? step)).map (step :: ·)

/-- **A value with another one put behind some steps.** -/
def write : List Step → Value → Option Value → Value
  | step :: steps, new, some v => v.put step (write steps new (v.member? step))
  | _, new, _ => new

variable {steps steps' : List Step} {m : Option Value}

/-- The first key of a path is a step into the value, and the others go on from there. -/
lemma steps?_cons_eq_some_iff : steps? (key :: keys) m = some steps ↔
    ∃ v step rest, m = some v ∧ v.step? key = some step ∧
      steps? keys (v.member? step) = some rest ∧ steps = step :: rest := by
  cases m with
  | none => simp [steps?]
  | some v =>
    simp only [steps?, Option.bind_eq_some_iff, Option.map_eq_some_iff]
    constructor
    · rintro ⟨step, hstep, rest, hrest, rfl⟩
      exact ⟨v, step, rest, rfl, hstep, hrest, rfl⟩
    · rintro ⟨_, step, rest, hv, hstep, hrest, rfl⟩
      cases hv
      exact ⟨step, hstep, rest, hrest, rfl⟩

/-- A path that leads somewhere leads there from what its first step leads to. -/
lemma at?_cons_eq_some_iff : at? (key :: keys) v = some x ↔
    ∃ step c, v.step? key = some step ∧ v.member? step = some c ∧ at? keys c = some x := by
  simp only [at?, Option.bind_eq_some_iff, child?_eq_some_iff]
  constructor
  · rintro ⟨c, ⟨step, hstep, hc⟩, hx⟩
    exact ⟨step, c, hstep, hc, hx⟩
  · rintro ⟨step, c, hstep, hc, hx⟩
    exact ⟨c, ⟨step, hstep, hc⟩, hx⟩

/-- A path with one more key leads on from where it led. -/
lemma at?_concat_eq_some_iff :
    at? (keys ++ [key]) v = some x ↔ ∃ w, at? keys v = some w ∧ w.child? key = some x := by
  induction keys generalizing v with
  | nil => simp [at?]
  | cons first keys ih =>
    simp only [List.cons_append, at?, Option.bind_eq_some_iff, ih]
    constructor
    · rintro ⟨c, hc, w, hw, hx⟩
      exact ⟨w, ⟨c, hc, hw⟩, hx⟩
    · rintro ⟨w, ⟨c, hc, hw⟩, hx⟩
      exact ⟨c, hc, w, hw, hx⟩

/-- A path that leads somewhere takes steps. -/
lemma exists_steps? (h : at? keys v = some x) : ∃ steps, steps? keys (some v) = some steps := by
  induction keys generalizing v with
  | nil => exact ⟨[], rfl⟩
  | cons key keys ih =>
    obtain ⟨step, c, hstep, hc, hx⟩ := at?_cons_eq_some_iff.1 h
    obtain ⟨steps, hsteps⟩ := ih hx
    exact ⟨step :: steps, steps?_cons_eq_some_iff.2
      ⟨v, step, steps, rfl, hstep, by rw [hc, hsteps], rfl⟩⟩

/-- **What is written is there.** -/
lemma at?_write_same (h : steps? keys m = some steps) (new : Value) :
    at? keys (write steps new m) = some new := by
  induction keys generalizing m steps with
  | nil =>
    cases h
    rfl
  | cons key keys ih =>
    obtain ⟨v, step, rest, rfl, hstep, hrest, rfl⟩ := steps?_cons_eq_some_iff.1 h
    exact at?_cons_eq_some_iff.2 ⟨step, _, (step?_put ..).trans hstep,
      member?_put_same hstep _, ih hrest⟩

/-- **What is written leaves other places,** those that it does not lie in and that do not lie in
it.

**Proof sketch.** Induction on the path that is written, along with the other one.  Where they take
different steps, the rest of the other path is not touched; as long as they take the same, they go
on into the same value. -/
lemma at?_write_other (h : steps? keys (some v) = some steps)
    (h' : steps? keys' (some v) = some steps') (hx : at? keys' v = some x)
    (hout : ¬ steps <+: steps') (hin : ¬ steps' <+: steps) (new : Value) :
    at? keys' (write steps new (some v)) = some x := by
  induction keys generalizing v steps keys' steps' with
  | nil =>
    cases h
    exact absurd List.nil_prefix hout
  | cons key keys ih =>
    obtain ⟨_, step, rest, heq, hstep, hrest, rfl⟩ := steps?_cons_eq_some_iff.1 h
    cases heq
    cases keys' with
    | nil =>
      cases h'
      exact absurd List.nil_prefix hin
    | cons key' keys' =>
      obtain ⟨_, step', rest', heq, hstep', hrest', rfl⟩ := steps?_cons_eq_some_iff.1 h'
      cases heq
      obtain ⟨_, c, hagain, hc, hx⟩ := at?_cons_eq_some_iff.1 hx
      cases hstep'.symm.trans hagain
      rw [at?_cons_eq_some_iff]
      by_cases hsame : step' = step
      · subst hsame
        rw [hc] at hrest hrest'
        rw [List.prefix_cons_inj] at hout hin
        refine ⟨step', _, (step?_put ..).trans hstep', member?_put_same hstep _, ?_⟩
        rw [hc]
        exact ih hrest hrest' hx hout hin
      · exact ⟨step', c, (step?_put ..).trans hstep', member?_put_other hsame hc _, hx⟩

/-! ## Reading and setting by keys -/

/-- The reading of a member fails in nothing, whether that is asked first or not. -/
lemma readIndex_eq_getIndex : readIndex = getIndex := by
  funext v key
  cases v with
  | null => simp [readIndex, getIndex, isNull, getProperty]
  | _ => rfl

/-- What a key of a path leads to is read by the key. -/
lemma getIndex_of_child? (h : v.child? key = some c) : v.getIndex key = .ok c := by
  cases v with
  | object fields =>
    have hfield : Fields.get? key.propertyKey fields = some c := h
    simp [getIndex, getProperty, hfield]
  | list items =>
    obtain ⟨i, hi, hc⟩ := Option.bind_eq_some_iff.1 h
    simp [getIndex, hi, hc]
  | _ => cases h

/-- What a path leads to is read by its keys, one after the other. -/
lemma foldlM_getIndex_of_at? (h : at? keys v = some x) : keys.foldlM getIndex v = .ok x := by
  induction keys generalizing v with
  | nil =>
    cases h
    rfl
  | cons key keys ih =>
    obtain ⟨c, hc, hx⟩ := Option.bind_eq_some_iff.1 h
    rw [List.foldlM_cons, getIndex_of_child? hc]
    exact ih hx

/-- A member that can be set is put where its key leads. -/
lemma exists_put_of_setIndex (h : v.setIndex key new = .ok w) :
    ∃ step, v.step? key = some step ∧ w = v.put step new := by
  unfold setIndex at h
  cases v with
  | list items =>
    cases hi : key.arrayIndex? with
    | none => simp [hi] at h
    | some i =>
      simp only [hi] at h
      split at h <;> cases h
      exact ⟨.element i, by simp [step?, hi], rfl⟩
  | object fields =>
    cases h
    exact ⟨.field key.propertyKey, rfl, rfl⟩
  | _ => cases h

/-- To replace what a key leads to is to put it there. -/
lemma putChild_eq_put (hstep : v.step? key = some step) (hc : v.member? step = some c)
    (new : Value) : v.putChild key new = v.put step new := by
  cases v with
  | object fields =>
    cases hstep
    rfl
  | list items =>
    obtain ⟨i, hi, rfl⟩ := Option.map_eq_some_iff.1 hstep
    obtain ⟨hlt, -⟩ := List.getElem?_eq_some_iff.1 hc
    simp [putChild, put, hi, setElement, hlt]
  | _ => cases hstep

/-- To put a member into what a path leads to is to write it one step further. -/
lemma exists_write_of_putAt (hv : at? keys v = some w) (hstep : w.step? key = some step)
    (new : Value) : ∃ steps, steps? (keys ++ [key]) (some v) = some steps ∧
      putAt keys (w.put step new) v = write steps new (some v) := by
  induction keys generalizing v with
  | nil =>
    cases hv
    exact ⟨[step], steps?_cons_eq_some_iff.2 ⟨_, step, [], rfl, hstep, rfl, rfl⟩, rfl⟩
  | cons first keys ih =>
    obtain ⟨step', c, hstep', hc, hw⟩ := at?_cons_eq_some_iff.1 hv
    obtain ⟨steps, hsteps, hput⟩ := ih hw
    refine ⟨step' :: steps, steps?_cons_eq_some_iff.2
      ⟨v, step', steps, rfl, hstep', by rw [hc]; exact hsteps, rfl⟩, ?_⟩
    rw [putAt, child?_eq_some_iff.2 ⟨step', hstep', hc⟩, write, hc, ← hput]
    exact putChild_eq_put hstep' hc _

/-! ## Regular values -/

/-- **Values as there can be:** the members of objects are in order, without one key twice. -/
inductive Regular : Value → Prop
  /-- Nothing. -/
  | null : Regular .null
  /-- A truth value. -/
  | bool (b : Bool) : Regular (.bool b)
  /-- A number. -/
  | number (n : Number) : Regular (.number n)
  /-- A text. -/
  | text (s : String) : Regular (.text s)
  /-- A list. -/
  | list {items : List Value} : (∀ v ∈ items, Regular v) → Regular (.list items)
  /-- An object. -/
  | object {fields : Fields Value} : fields.Pairwise (·.1 < ·.1) →
    (∀ entry ∈ fields, Regular entry.2) → Regular (.object fields)

namespace Regular

/-- What a regular object holds is regular. -/
lemma of_get? {fields : Fields Value} {name : String} (hv : (Value.object fields).Regular)
    (h : Fields.get? name fields = some c) : c.Regular := by
  cases hv with
  | object _ hentries => exact hentries _ (Fields.mem_of_get? h)

/-- To insert what a regular object holds changes nothing. -/
lemma insert_self {fields : Fields Value} {name : String} (hv : (Value.object fields).Regular)
    (h : Fields.get? name fields = some c) : Fields.insert name c fields = fields := by
  cases hv with
  | object hsorted _ => exact Fields.insert_self hsorted h

/-- What a step leads to in a regular value is regular. -/
lemma member? (hv : v.Regular) (hc : v.member? step = some c) : c.Regular := by
  cases hv with
  | object hsorted hentries =>
    cases step with
    | element => cases hc
    | field name => exact (Regular.object hsorted hentries).of_get? hc
  | list hitems =>
    cases step with
    | field => cases hc
    | element i => exact hitems c (List.mem_of_getElem? hc)
  | _ => cases step <;> cases hc

/-- What a path leads to in a regular value is regular. -/
lemma at? (hv : v.Regular) (hx : at? keys v = some x) : x.Regular := by
  induction keys generalizing v with
  | nil =>
    cases hx
    exact hv
  | cons key keys ih =>
    obtain ⟨step, c, -, hc, hx⟩ := at?_cons_eq_some_iff.1 hx
    exact ih (hv.member? hc) hx

/-- To put what is there where it is changes nothing. -/
lemma put_self (hv : v.Regular) (hc : v.member? step = some c) : v.put step c = v := by
  cases hv with
  | object hsorted hentries =>
    cases step with
    | element => cases hc
    | field name => exact congrArg Value.object ((Regular.object hsorted hentries).insert_self hc)
  | list _ =>
    cases step with
    | field => cases hc
    | element i =>
      obtain ⟨hlt, rfl⟩ := List.getElem?_eq_some_iff.1 hc
      simp [put, setElement, hlt]
  | _ => cases step <;> cases hc

/-- To put what is there at the end of a path changes nothing. -/
lemma putAt_self (hv : v.Regular) (hx : Value.at? keys v = some x) : putAt keys x v = v := by
  induction keys generalizing v with
  | nil =>
    cases hx
    rfl
  | cons key keys ih =>
    obtain ⟨step, c, hstep, hc, hx⟩ := at?_cons_eq_some_iff.1 hx
    rw [putAt, child?_eq_some_iff.2 ⟨step, hstep, hc⟩]
    dsimp only
    rw [ih (hv.member? hc) hx, putChild_eq_put hstep hc, hv.put_self hc]

/-- To set what is there changes nothing. -/
lemma setIndex_self (hv : v.Regular) (hc : v.child? key = some c) : v.setIndex key c = .ok v := by
  obtain ⟨step, hstep, hmember⟩ := child?_eq_some_iff.1 hc
  have hput := hv.put_self hmember
  cases hv with
  | object =>
    cases hstep
    exact congrArg Except.ok hput
  | list _ =>
    obtain ⟨i, hi, rfl⟩ := Option.map_eq_some_iff.1 hstep
    obtain ⟨hlt, -⟩ := List.getElem?_eq_some_iff.1 hmember
    simp only [setIndex, hi, hlt, true_or, if_true]
    exact congrArg Except.ok hput
  | _ => cases hstep

/-- An object with a member set is regular. -/
lemma insert {fields : Fields Value} (hv : (Value.object fields).Regular) (name : String)
    (hnew : new.Regular) : (Value.object (Fields.insert name new fields)).Regular := by
  cases hv with
  | object hsorted hentries =>
    refine .object (Fields.pairwise_insert hsorted name new) fun entry hentry => ?_
    rcases Fields.mem_insert hentry with rfl | hold
    · exact hnew
    · exact hentries entry hold

/-- A list with an element set is regular. -/
lemma setElement {items : List Value} (hv : (Value.list items).Regular) (i : Nat)
    (hnew : new.Regular) : (Value.list (setElement items i new)).Regular := by
  cases hv with
  | list hitems =>
    unfold Value.setElement
    split
    · refine .list fun x hx => ?_
      rcases List.mem_or_eq_of_mem_set hx with hold | rfl
      · exact hitems x hold
      · exact hnew
    · refine .list fun x hx => ?_
      simp only [List.mem_append, List.mem_replicate, List.mem_singleton] at hx
      rcases hx with (hold | ⟨-, rfl⟩) | rfl
      · exact hitems x hold
      · exact .null
      · exact hnew

/-- A regular value with a member set is regular. -/
lemma setIndex (hv : v.Regular) (hnew : new.Regular) (h : v.setIndex key new = .ok w) :
    w.Regular := by
  unfold Value.setIndex at h
  cases hv with
  | object hsorted hentries =>
    cases h
    exact (Regular.object hsorted hentries).insert _ hnew
  | list hitems =>
    dsimp only at h
    split at h
    · cases h
    · split at h
      · cases h
        exact (Regular.list hitems).setElement _ hnew
      · cases h
  | _ => cases h

/-- A regular value with something put at the end of a path is regular. -/
lemma putAt (hv : v.Regular) (hnew : new.Regular) (hx : Value.at? keys v = some x) :
    (Value.putAt keys new v).Regular := by
  induction keys generalizing v with
  | nil => exact hnew
  | cons key keys ih =>
    obtain ⟨step, c, hstep, hc, hx⟩ := at?_cons_eq_some_iff.1 hx
    have hinner := ih (hv.member? hc) hx
    rw [Value.putAt, child?_eq_some_iff.2 ⟨step, hstep, hc⟩]
    dsimp only
    rw [putChild_eq_put hstep hc]
    cases hv with
    | object hsorted hentries =>
      cases hstep
      exact (Regular.object hsorted hentries).insert _ hinner
    | list hitems =>
      obtain ⟨i, -, rfl⟩ := Option.map_eq_some_iff.1 hstep
      exact (Regular.list hitems).setElement i hinner
    | _ => cases hstep

end Regular

end Value

end Stencil
