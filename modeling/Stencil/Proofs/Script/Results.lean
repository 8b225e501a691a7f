import Mathlib.Data.Option.Basic
import Stencil.Proofs.Script.Literals
import Stencil.Script.Function

/-!
# Regular results

Values come from literals, from operators, from functions and methods, and from where they are
bound.  None of these gives an object whose members are out of order, as long as there is none among
the values that they are given.

## Main definitions

* `Stencil.Script.Functions.Regular` — functions of a host that give regular values for regular
  arguments.

## Main results

* `Stencil.Json.regular_of_read?` — what is read from JSON text is regular.
* `Stencil.Script.callMethod_regular`, `callFunction_regular`, `callStatic_regular` — calls give
  regular values for regular arguments.
-/

set_option relaxedAutoImplicit false
set_option autoImplicit false

namespace Stencil

namespace Value.Regular

variable {v w key : Value} {items : List Value} {name : String}

/-! ## Parts of values -/

/-- An object without members is regular. -/
lemma empty : (Value.object []).Regular := .object .nil nofun

/-- A value that may be missing is regular, if nothing stands for it then. -/
lemma getD {o : Option Value} (h : ∀ v ∈ o, v.Regular) : (o.getD .null).Regular := by
  cases o with
  | none => exact .null
  | some v => exact h v rfl

/-- An element of a list of regular values, or nothing. -/
lemma getD_getElem? (h : ∀ v ∈ items, v.Regular) (i : Nat) : (items[i]?.getD .null).Regular :=
  getD fun v hv => h v (List.mem_of_getElem? hv)

/-- A list of texts is regular. -/
lemma texts {α : Type} (f : α → String) (l : List α) :
    ∀ v ∈ l.map fun a => Value.text (f a), v.Regular :=
  List.forall_mem_map.2 fun a _ => .text (f a)

/-- The elements of a regular list are regular. -/
lemma elements (h : (Value.list items).Regular) : ∀ v ∈ items, v.Regular := by
  cases h with
  | list hitems => exact hitems

/-- A member by name of a regular value is regular. -/
lemma getProperty (hv : v.Regular) (h : v.getProperty name = .ok w) : w.Regular := by
  unfold Value.getProperty at h
  cases hv with
  | null => cases h
  | bool b | number n =>
    cases h
    exact .null
  | text s =>
    cases h
    split
    · exact .number _
    · exact .null
  | list hitems =>
    cases h
    split
    · exact .number _
    · refine getD fun w hw => ?_
      obtain ⟨i, -, hi⟩ := Option.bind_eq_some_iff.1 hw
      exact hitems w (List.mem_of_getElem? hi)
  | object hsorted hentries =>
    cases h
    exact getD fun w hw => (Regular.object hsorted hentries).of_get? hw

/-- A member by value of a regular value is regular. -/
lemma getIndex (hv : v.Regular) (h : v.getIndex key = .ok w) : w.Regular := by
  unfold Value.getIndex at h
  split at h
  · cases h
    exact getD_getElem? hv.elements _
  next s i _ =>
    cases h
    exact getD (Option.forall_mem_map.2 fun c _ => .text _)
  · exact hv.getProperty h

/-- What a loop over the elements of a regular value visits is regular. -/
lemma elements? (hv : v.Regular) (h : v.elements? = some items) : ∀ w ∈ items, w.Regular := by
  cases hv with
  | list hitems =>
    cases h
    exact hitems
  | text s =>
    cases h
    exact texts _ _
  | _ => cases h

/-- The keys of a value are texts. -/
lemma keys (v : Value) : ∀ w ∈ v.keys, w.Regular := by
  cases v with
  | object fields => exact texts (fun entry => entry.1) fields
  | list items => exact texts _ _
  | text s => exact texts _ _
  | _ => exact nofun

/-- The members of one regular object laid over those of another. -/
lemma override {base upper : Fields Value} (hbase : (Value.object base).Regular)
    (hupper : ∀ entry ∈ upper, entry.2.Regular) :
    (Value.object (base.override upper)).Regular := by
  induction upper generalizing base with
  | nil => exact hbase
  | cons entry rest ih =>
    obtain ⟨hentry, hrest⟩ := List.forall_mem_cons.1 hupper
    exact ih (hbase.insert entry.1 hentry) hrest

/-- Members set one after the other make a regular object. -/
lemma ofList {entries : List (String × Value)} (h : ∀ entry ∈ entries, entry.2.Regular) :
    (Value.object (Fields.ofList entries)).Regular :=
  empty.override h

end Value.Regular

/-! ## JSON -/

namespace Json

/-- Every reader of JSON text gives regular values. -/
structure ReadsRegular (fuel : Nat) : Prop where
  value : ∀ {depth s p}, readValue? depth fuel s = some p → p.1.Regular
  elements : ∀ {depth s p}, readElements? depth fuel s = some p → ∀ v ∈ p.1, v.Regular
  members : ∀ {depth s p}, readMembers? depth fuel s = some p → ∀ entry ∈ p.1, entry.2.Regular

namespace ReadsRegular

variable {fuel depth : Nat} (ih : ReadsRegular fuel) {s : List Char}

include ih

/-- A value is a scalar, or put together from elements or members.

**Proof sketch.** The cases of the first characters.  Elements and members are regular by induction,
and a scalar always is. -/
lemma value_succ {p : Value × List Char} (h : readValue? depth (fuel + 1) s = some p) :
    p.1.Regular := by
  rw [readValue?.eq_def] at h
  dsimp only at h
  split at h
  · cases h
    exact .null
  · cases h
    exact .bool true
  · cases h
    exact .bool false
  · obtain ⟨q, -, rfl⟩ := Option.map_eq_some_iff.1 h
    exact .text _
  · obtain ⟨q, -, rfl⟩ := Option.map_eq_some_iff.1 h
    exact .number _
  · split at h
    · cases h
    · split at h
      · cases h
        exact .list nofun
      · obtain ⟨q, hq, rfl⟩ := Option.map_eq_some_iff.1 h
        exact .list (ih.elements hq)
  · split at h
    · cases h
    · split at h
      · cases h
        exact .empty
      · obtain ⟨q, hq, rfl⟩ := Option.map_eq_some_iff.1 h
        exact .ofList (ih.members hq)
  · obtain ⟨q, -, rfl⟩ := Option.map_eq_some_iff.1 h
    exact .number _

/-- Elements between commas are read one after the other. -/
lemma elements_succ {p : List Value × List Char}
    (h : readElements? depth (fuel + 1) s = some p) : ∀ v ∈ p.1, v.Regular := by
  rw [readElements?.eq_def] at h
  obtain ⟨⟨item, rest⟩, hitem, h⟩ := Option.bind_eq_some_iff.1 h
  dsimp only at h
  split at h
  · obtain ⟨q, hq, rfl⟩ := Option.map_eq_some_iff.1 h
    exact List.forall_mem_cons.2 ⟨ih.value hitem, ih.elements hq⟩
  · cases h
    exact List.forall_mem_singleton.2 (ih.value hitem)
  · cases h

/-- So are members. -/
lemma members_succ {p : List (String × Value) × List Char}
    (h : readMembers? depth (fuel + 1) s = some p) : ∀ entry ∈ p.1, entry.2.Regular := by
  rw [readMembers?.eq_def] at h
  dsimp only at h
  split at h
  · obtain ⟨⟨key, rest⟩, -, h⟩ := Option.bind_eq_some_iff.1 h
    dsimp only at h
    split at h
    · obtain ⟨⟨item, rest⟩, hitem, h⟩ := Option.bind_eq_some_iff.1 h
      dsimp only at h
      split at h
      · obtain ⟨q, hq, rfl⟩ := Option.map_eq_some_iff.1 h
        exact List.forall_mem_cons.2 ⟨ih.value hitem, ih.members hq⟩
      · cases h
        exact List.forall_mem_singleton.2 (ih.value hitem)
      · cases h
    · cases h
  · cases h

end ReadsRegular

/-- Every reader of JSON text gives regular values.

**Proof sketch.** Induction on the fuel, all readers at once.  The members of an object are set one
after the other, which puts them in order. -/
lemma readsRegular (fuel : Nat) : ReadsRegular fuel := by
  induction fuel with
  | zero => constructor <;> nofun
  | succ fuel ih => exact ⟨ih.value_succ, ih.elements_succ, ih.members_succ⟩

/-- **What is read from JSON text is regular.** -/
theorem regular_of_read? {s : String} {v : Value} (h : read? s = some v) : v.Regular := by
  unfold read? at h
  split at h
  next w rest hread =>
    obtain ⟨-, h⟩ := Option.ite_none_right_eq_some.1 h
    cases h
    exact (readsRegular _).value hread
  · cases h

end Json

namespace Script

variable {v w : Value} {items args : List Value} {name : String}

/-! ## Methods -/

/-- The first argument is regular, or missing. -/
lemma firstArgument_regular (hargs : ∀ v ∈ args, v.Regular) : (firstArgument args).Regular :=
  Value.Regular.getD_getElem? hargs 0

/-- A method of a text gives a truth value, a number, a text, or a list of texts.

**Proof sketch.** Most methods give a text.  Searches give truth values and positions, and splitting
gives texts in a list. -/
lemma textMethod?_regular {s : String} (h : textMethod? s name args = some v) : v.Regular := by
  unfold textMethod? at h
  dsimp only at h
  split at h
  -- Most methods give a text, whatever it is.
  any_goals
    cases h
    exact .text _
  · obtain ⟨p, -, rfl⟩ := Option.map_eq_some_iff.1 h
    exact .bool _
  · obtain ⟨p, -, rfl⟩ := Option.map_eq_some_iff.1 h
    exact .bool _
  · obtain ⟨p, -, rfl⟩ := Option.map_eq_some_iff.1 h
    exact .bool _
  · obtain ⟨p, -, rfl⟩ := Option.map_eq_some_iff.1 h
    split <;> exact .number _
  · split at h
    · cases h
      exact .list (List.forall_mem_singleton.2 (.text s))
    · cases h
      exact .list (List.forall_mem_singleton.2 (.text s))
    · cases h
      exact .list (.texts _ _)
  · obtain ⟨p, -, rfl⟩ := Option.map_eq_some_iff.1 h
    split <;> exact .text _
  · obtain ⟨p, -, rfl⟩ := Option.map_eq_some_iff.1 h
    exact .text _
  · split at h
    · cases h
    · split at h <;> cases h <;> exact .text _
  · cases h

/-- A method of a list gives regular values for regular ones. -/
lemma listMethod?_regular (hitems : ∀ v ∈ items, v.Regular) (hargs : ∀ v ∈ args, v.Regular)
    (h : listMethod? items name args = some v) : v.Regular := by
  unfold listMethod? at h
  dsimp only at h
  split at h
  · cases h
    exact .text _
  · cases h
    exact .bool _
  · split at h <;> cases h <;> exact .number _
  · cases h
    exact .list fun v hv => hitems v (List.mem_of_mem_take (List.mem_of_mem_drop hv))
  · cases h
    refine .list (List.forall_mem_append.2 ⟨hitems, fun v hv => ?_⟩)
    obtain ⟨arg, harg, hv⟩ := List.mem_flatMap.1 hv
    split at hv
    · exact (hargs _ harg).elements v hv
    · exact List.mem_singleton.1 hv ▸ hargs _ harg
  · cases h

/-- A method that changes a list leaves regular values, and gives one. -/
lemma changeList?_regular {after : List Value} (hitems : ∀ v ∈ items, v.Regular)
    (hargs : ∀ v ∈ args, v.Regular) (h : changeList? name items args = some (after, w)) :
    (∀ v ∈ after, v.Regular) ∧ w.Regular := by
  unfold changeList? at h
  split at h <;> cases h
  · exact ⟨List.forall_mem_append.2 ⟨hitems, hargs⟩, .number _⟩
  · exact ⟨List.forall_mem_append.2 ⟨hargs, hitems⟩, .number _⟩
  · exact ⟨fun v hv => hitems v (List.dropLast_subset _ hv),
      .getD fun v hv => hitems v (List.mem_of_getLast? hv)⟩
  · exact ⟨fun v hv => hitems v (List.mem_of_mem_tail hv),
      .getD fun v hv => hitems v (List.mem_of_head? hv)⟩

/-- A method of a number gives a text. -/
lemma numberMethod?_regular {x : Float} (h : numberMethod? x name args = some v) : v.Regular := by
  unfold numberMethod? at h
  split at h <;> cases h <;> exact .text _

/-- **A method of a regular value** gives regular values for regular arguments.

**Proof sketch.** The cases of the value.  Each kind of value has its table of methods, and what is
in none of them is `toString` or a fault. -/
lemma callMethod_regular {receiver : Value} (hreceiver : receiver.Regular)
    (hargs : ∀ v ∈ args, v.Regular) (h : callMethod receiver name args = .ok v) : v.Regular := by
  have orToString {fault : Fault}
      (h : (if name = "toString" then .ok (.text receiver.display) else .error fault) =
        (Except.ok v : Except Fault Value)) : v.Regular := by
    split at h <;> cases h
    exact .text _
  unfold callMethod at h
  cases receiver with
  | null => cases h
  | bool b => exact orToString h
  | number n =>
    dsimp only at h
    split at h
    next w hw =>
      cases h
      exact numberMethod?_regular hw
    · exact orToString h
  | text s =>
    dsimp only at h
    split at h
    · cases h
    · split at h
      next w hw =>
        cases h
        exact textMethod?_regular hw
      · exact orToString h
  | list items =>
    dsimp only at h
    split at h
    next w hw =>
      cases h
      exact listMethod?_regular hreceiver.elements hargs hw
    · exact orToString h
  | object fields =>
    dsimp only at h
    split at h
    · cases h
      exact .bool _
    · exact orToString h

/-! ## Functions -/

/-- **Functions of a host that give regular values** for regular arguments. -/
def Functions.Regular (functions : Functions) : Prop :=
  ∀ name f, Fields.get? name functions = some f →
    ∀ args, (∀ v ∈ args, v.Regular) → ∀ v, f args = .ok v → v.Regular

/-- A whole number read off a text is a number, or nothing. -/
lemma parseWhole_regular (s : List Char) (radix : Option Float) : (parseWhole s radix).Regular := by
  have hread (failed : Prop) [Decidable failed] (n : Int) :
      (if failed then Value.null else .ofInt n).Regular := by
    split
    · exact .null
    · exact .number _
  unfold parseWhole
  dsimp only
  split
  · exact hread _ _
  · exact hread _ _
  · split
    · exact hread _ _
    · split
      · exact hread _ _
      · exact .null
  · split
    · exact hread _ _
    · exact .null

/-- So is any number read off a text. -/
lemma parseNumber_regular (s : List Char) : (parseNumber s).Regular :=
  .getD (Option.forall_mem_map.2 fun x _ => .ofFloat x)

/-- Built-in functions give truth values, numbers, texts, or nothing. -/
lemma builtin?_regular (h : builtin? name args = some v) : v.Regular := by
  unfold builtin? at h
  dsimp only at h
  split at h <;> cases h
  · exact .text _
  · split
    · exact .number _
    · exact .ofFloat _
  · exact .bool _
  · exact parseWhole_regular _ _
  · exact parseNumber_regular _
  · exact .bool _

/-- **A call by name** gives regular values for regular arguments, if functions of the host do. -/
lemma callFunction_regular {functions : Functions} (hfunctions : functions.Regular) {s : Scope}
    (hargs : ∀ v ∈ args, v.Regular) (h : callFunction functions s name args = .ok v) :
    v.Regular := by
  unfold callFunction at h
  split at h
  next f hf =>
    cases hcall : f args with
    | error message => rw [hcall] at h; cases h
    | ok w =>
      rw [hcall] at h
      cases h
      exact hfunctions name f hf args hargs v hcall
  · split at h
    · cases h
    · split at h
      next w hw =>
        cases h
        exact builtin?_regular hw
      · cases h

/-- Functions on objects give lists of regular values for regular arguments. -/
lemma callObject?_regular (hargs : ∀ v ∈ args, v.Regular) (h : callObject? name args = some v) :
    v.Regular := by
  have hfirst := firstArgument_regular hargs
  unfold callObject? at h
  dsimp only at h
  split at h
  · cases h
    exact .list (.keys _)
  · cases h
    refine .list ?_
    generalize firstArgument args = first at hfirst
    cases hfirst with
    | object _ hentries => exact List.forall_mem_map.2 hentries
    | list hitems => exact hitems
    | _ => exact nofun
  · cases h
    refine .list ?_
    generalize firstArgument args = first at hfirst
    cases hfirst with
    | object _ hentries =>
      refine List.forall_mem_map.2 fun entry hentry => .list ?_
      exact List.forall_mem_cons.2 ⟨.text _, List.forall_mem_singleton.2 (hentries entry hentry)⟩
    | _ => exact nofun
  · cases h

/-- Functions on JSON text give regular values. -/
lemma callJson?_regular (h : callJson? name args = some (.ok v)) : v.Regular := by
  unfold callJson? at h
  dsimp only at h
  split at h
  · cases h
    exact .text _
  · split at h
    next w hw =>
      cases h
      exact Json.regular_of_read? hw
    · cases h
  · cases h

/-- **A function of a namespace** gives regular values for regular arguments. -/
lemma callStatic_regular {space : String} (hargs : ∀ v ∈ args, v.Regular)
    (h : callStatic space name args = .ok v) : v.Regular := by
  have hsome {o : Option (Except Fault Value)} {fault : Fault}
      (h : o.getD (.error fault) = .ok v) : o = some (.ok v) := by
    cases o with
    | none => cases h
    | some r => exact congrArg some h
  replace h := hsome h
  split at h
  · exact callJson?_regular h
  · obtain ⟨x, -, hx⟩ := Option.map_eq_some_iff.1 h
    cases hx
    exact .ofFloat x
  · obtain ⟨w, hw, heq⟩ := Option.map_eq_some_iff.1 h
    cases heq
    exact callObject?_regular hargs hw
  · obtain ⟨-, h⟩ := Option.ite_none_right_eq_some.1 h
    cases h
    exact .bool _
  · cases h

/-- The constants of namespaces are numbers. -/
lemma constant?_regular {s : Scope} {space : String} (h : constant? s space name = some v) :
    v.Regular := by
  unfold constant? at h
  split_ifs at h <;> cases h <;> exact .ofFloat _

/-! ## Operators -/

/-- A unary operator gives a truth value, a number or a text. -/
lemma UnaryOp.apply_regular (op : UnaryOp) (v : Value) : (op.apply v).Regular := by
  cases op with
  | not => exact .bool _
  | typeOf => exact .text _
  | _ => exact .ofFloat _

/-- So does a binary operator. -/
lemma BinaryOp.apply_regular (op : BinaryOp) (v w : Value) : (op.apply v w).Regular := by
  cases op with
  | add =>
    show (Value.plus v w).Regular
    unfold Value.plus
    split
    · exact .text _
    · exact .ofFloat _
  | sub | mul | div | rem => exact .ofFloat _
  | _ => exact .bool _

end Script

end Stencil
