import Mathlib.Data.List.Basic
import Stencil.Proofs.Script.Places
import Stencil.Proofs.Script.Steps

/-!
# Writing and reading back

An assignment to a place changes what is there and nothing beside it.  Which places lie beside each
other is a matter of the steps that their keys stand for, and of the binding that they begin from:
the frames that are not seen have places too.

## Main definitions

* `Stencil.Script.Scope.level`, `Stencil.Script.Scope.binding?` — where the binding of a name is,
  and the bindings of all frames.
* `Stencil.Script.Scope.Regular` — a scope with regular values.
* `Stencil.Script.Place`, `Stencil.Script.Place.Meets` — a place of a scope, and when two places
  have something in common.

## Main results

* `Stencil.Script.Scope.binding?_assign` — an assignment is seen in one binding only.
* `Stencil.Script.Scope.Regular.assignAt` — assignments keep values regular.
* `Stencil.Script.assignAt_lens` — what is assigned is read back, what lies beside it stays, and to
  assign what is there changes nothing.
-/

set_option relaxedAutoImplicit false
set_option autoImplicit false

namespace Stencil.Script

variable {s t : Scope} {root name : String} {keys keys' : List Value} {value v x : Value}

/-! ## Bindings -/

namespace Scope

/-- The frame in which a name is found, counted from the innermost one. -/
def levelIn? (name : String) : List Frame → Option Nat
  | [] => none
  | f :: rest =>
    if Fields.contains name f.vars then some 0
    else if f.isolated then none
    else (levelIn? name rest).map (· + 1)

/-- **Where the binding of a name is that is seen:** in a frame, or among the globals. -/
def level (s : Scope) (name : String) : Option Nat := levelIn? name s.frames

/-- **What a name is bound to in a frame, or among the globals,** seen or not. -/
def binding? (s : Scope) (level : Option Nat) (name : String) : Option Value :=
  match level with
  | some i => s.frames[i]?.bind fun f => Fields.get? name f.vars
  | none => Fields.get? name s.globals

/-- A frame with a name bound. -/
def bindIn (name : String) (value : Value) (f : Frame) : Frame :=
  { f with vars := Fields.insert name value f.vars }

variable {frames : List Frame}

/-- What is found in the frames is bound in one of them. -/
lemma lookup?_eq (name : String) (frames : List Frame) :
    lookup? name frames =
      (levelIn? name frames).bind fun i => frames[i]?.bind fun f => Fields.get? name f.vars := by
  induction frames with
  | nil => rfl
  | cons f rest ih =>
    unfold lookup? levelIn? Fields.contains
    by_cases hbound : (Fields.get? name f.vars).isSome
    · obtain ⟨v, hv⟩ := Option.isSome_iff_exists.1 hbound
      simp [hv]
    · have hfree : Fields.get? name f.vars = none := by simpa using hbound
      cases hisolated : f.isolated with
      | true => simp [hfree]
      | false =>
        rw [ih]
        cases levelIn? name rest <;> simp [hfree]

/-- There is a binding in the frame in which a name is found. -/
lemma exists_of_levelIn? {i : Nat} (h : levelIn? name frames = some i) :
    ∃ f v, frames[i]? = some f ∧ Fields.get? name f.vars = some v := by
  induction frames generalizing i with
  | nil => cases h
  | cons f rest ih =>
    simp only [levelIn?] at h
    split at h
    · next hbound =>
      cases h
      obtain ⟨v, hv⟩ := Option.isSome_iff_exists.1 hbound
      exact ⟨f, v, rfl, hv⟩
    · split at h
      · cases h
      · obtain ⟨j, hj, rfl⟩ := Option.map_eq_some_iff.1 h
        exact ih hj

/-- A name is read where its binding is. -/
lemma get?_eq (s : Scope) (name : String) : s.get? name = s.binding? (s.level name) name := by
  unfold get? level
  rw [lookup?_eq]
  cases hlevel : levelIn? name s.frames with
  | none => rfl
  | some i =>
    obtain ⟨f, v, hf, hv⟩ := exists_of_levelIn? hlevel
    simp [binding?, hf, hv]

/-- A binding is replaced in the frame in which it is found. -/
lemma replaceIn?_eq (name : String) (value : Value) (frames : List Frame) :
    replaceIn? name value frames =
      (levelIn? name frames).map fun i => frames.modify i (bindIn name value) := by
  induction frames with
  | nil => rfl
  | cons f rest ih =>
    simp only [replaceIn?, levelIn?]
    split
    · rfl
    · split
      · rfl
      · rw [ih]
        cases levelIn? name rest <;> rfl

/-- A name is assigned where its binding is. -/
lemma assign_eq (s : Scope) (name : String) (value : Value) :
    s.assign name value =
      match s.level name with
      | some i => { s with frames := s.frames.modify i (bindIn name value) }
      | none => { s with globals := Fields.insert name value s.globals } := by
  unfold assign level
  rw [replaceIn?_eq]
  cases levelIn? name s.frames <;> rfl

/-- **An assignment is seen in one binding only.** -/
lemma binding?_assign (s : Scope) (root : String) (value : Value) (level : Option Nat)
    (name : String) : (s.assign root value).binding? level name =
      if level = s.level root ∧ name = root then some value else s.binding? level name := by
  rw [assign_eq]
  cases hroot : s.level root with
  | none =>
    cases level with
    | none => simp [binding?, Fields.get?_insert]
    | some j => simp [binding?]
  | some i =>
    cases level with
    | none => simp [binding?]
    | some j =>
      obtain ⟨f, v, hf, -⟩ := exists_of_levelIn? hroot
      by_cases hij : j = i
      · subst hij
        simp [binding?, hf, bindIn, Fields.get?_insert]
      · simp [binding?, hij, Ne.symm hij]

/-- To bind what is bound leaves the names of a frame.

**Proof sketch.** Induction on the frames up to the one that binds the name. -/
lemma levelIn?_modify {i : Nat} (h : levelIn? root frames = some i) (value : Value)
    (name : String) :
    levelIn? name (frames.modify i (bindIn root value)) = levelIn? name frames := by
  induction frames generalizing i with
  | nil => cases h
  | cons f rest ih =>
    simp only [levelIn?] at h
    split at h
    · next hbound =>
      cases h
      have hnames :
          Fields.contains name (bindIn root value f).vars = Fields.contains name f.vars := by
        simp only [bindIn, Fields.contains, Fields.get?_insert]
        split
        · next hname =>
          subst hname
          exact hbound.symm
        · rfl
      simp only [List.modify_zero_cons, levelIn?, hnames]
      rfl
    · split at h
      · cases h
      · obtain ⟨j, hj, rfl⟩ := Option.map_eq_some_iff.1 h
        simp only [List.modify_succ_cons, levelIn?, ih hj]

/-- An assignment leaves where names are found. -/
lemma level_assign (s : Scope) (root : String) (value : Value) :
    (s.assign root value).level = s.level := by
  funext name
  rw [assign_eq]
  cases hroot : s.level root with
  | none => rfl
  | some i => exact levelIn?_modify hroot value name

/-! ## Assignments -/

/-- A member is assigned if there is something to set it in. -/
lemma assignAt_concat_eq_ok_iff {parents : List Value} {last : Value} :
    s.assignAt root (parents ++ [last]) value = .ok t ↔
      ∃ v parent w, s.get? root = some v ∧ Value.at? parents v = some parent ∧
        parent.setIndex last value = .ok w ∧ t = s.assign root (Value.putAt parents w v) := by
  have hat : s.at? root parents = (s.get? root).bind (Value.at? parents) := rfl
  simp only [assignAt, List.getLast?_concat, List.dropLast_concat, hat]
  cases hget : s.get? root with
  | none => simp [contains, hget]
  | some v =>
    cases hparent : Value.at? parents v with
    | none => simp [contains, hget, hparent]
    | some parent =>
      cases hset : parent.setIndex last value with
      | error fault => simp [hparent, hset, Except.map]
      | ok w => simp [hparent, hset, Except.map, putAt, hget, eq_comm]

/-! ## Regular scopes -/

/-- **Scopes as there can be:** all that is bound is regular, and the names of a frame are in
order. -/
structure Regular (s : Scope) : Prop where
  /-- The globals are like the members of a regular object. -/
  globals : (Value.object s.globals).Regular
  /-- The bindings of a frame are like the members of a regular object. -/
  frames : ∀ f ∈ s.frames, (Value.object f.vars).Regular

namespace Regular

/-- What a name is bound to in a regular scope is regular. -/
lemma get? (hs : s.Regular) (h : s.get? name = some v) : v.Regular := by
  rw [get?_eq] at h
  cases hlevel : s.level name with
  | none =>
    rw [hlevel] at h
    exact hs.globals.of_get? h
  | some i =>
    rw [hlevel] at h
    obtain ⟨f, hf, hget⟩ := Option.bind_eq_some_iff.1 h
    exact (hs.frames f (List.mem_of_getElem? hf)).of_get? hget

/-- To assign to a name what it is bound to changes nothing.

**Proof sketch.** The name is bound in a frame or globally.  There its value is set again, which
changes nothing since keys are in order. -/
lemma assign_self (hs : s.Regular) (h : s.get? name = some v) : s.assign name v = s := by
  rw [get?_eq] at h
  rw [assign_eq]
  cases hlevel : s.level name with
  | none =>
    rw [hlevel] at h
    have hglobals : Fields.insert name v s.globals = s.globals := hs.globals.insert_self h
    simp only [hglobals]
  | some i =>
    rw [hlevel] at h
    obtain ⟨f, hf, hget⟩ := Option.bind_eq_some_iff.1 h
    have hvars : Fields.insert name v f.vars = f.vars :=
      (hs.frames f (List.mem_of_getElem? hf)).insert_self hget
    have hsame : s.frames.modify i (bindIn name v) = s.frames := by
      refine List.ext_getElem? fun j => ?_
      rw [List.getElem?_modify]
      split
      · next hij =>
        subst hij
        simp [hf, bindIn, hvars]
      · simp
    simp only [hsame]

/-- An assignment of a regular value keeps a scope regular. -/
lemma assign (hs : s.Regular) (name : String) (hv : v.Regular) : (s.assign name v).Regular := by
  rw [assign_eq]
  cases s.level name with
  | none => exact ⟨hs.globals.insert name hv, hs.frames⟩
  | some i =>
    refine ⟨hs.globals, fun f hf => ?_⟩
    obtain ⟨j, hj⟩ := List.getElem?_of_mem hf
    rw [List.getElem?_modify] at hj
    obtain ⟨g, hg, rfl⟩ := Option.map_eq_some_iff.1 hj
    have hold := hs.frames g (List.mem_of_getElem? hg)
    split
    · exact hold.insert name hv
    · exact hold

/-- **Assignments keep values regular.**  An assignment of a regular value to a place of a regular
scope leaves a regular scope, if it can be made. -/
theorem assignAt (hs : s.Regular) (hvalue : value.Regular)
    (h : s.assignAt root keys value = .ok t) : t.Regular := by
  rcases List.eq_nil_or_concat' keys with rfl | ⟨parents, last, rfl⟩
  · cases h
    exact hs.assign root hvalue
  · obtain ⟨v, parent, w, hv, hparent, hw, rfl⟩ := assignAt_concat_eq_ok_iff.1 h
    have hroot := hs.get? hv
    exact hs.assign root (hroot.putAt ((hroot.at? hparent).setIndex hvalue hw) hparent)

end Regular

end Scope

/-! ## Places -/

/-- **A place of a scope:** a binding, and steps into what is bound. -/
structure Place where
  /-- The frame of the binding; none for the globals. -/
  level : Option Nat
  /-- The name. -/
  name : String
  /-- The steps. -/
  steps : List Value.Step

/-- **Whether two places have something in common:** they are the same, or one lies in the other. -/
def Place.Meets (p q : Place) : Prop :=
  p.level = q.level ∧ p.name = q.name ∧ (p.steps <+: q.steps ∨ q.steps <+: p.steps)

instance (p q : Place) : Decidable (p.Meets q) := inferInstanceAs (Decidable (_ ∧ _ ∧ (_ ∨ _)))

namespace Scope

/-- The place that a path of keys leads to from a binding.  The last key need not lead
anywhere. -/
def place? (s : Scope) (level : Option Nat) (name : String) (keys : List Value) : Option Place :=
  (Value.steps? keys (s.binding? level name)).map fun steps => { level, name, steps }

/-- The value at the place that a path of keys leads to from a binding, if all of it is
there. -/
def atIn? (s : Scope) (level : Option Nat) (name : String) (keys : List Value) : Option Value :=
  (s.binding? level name).bind (Value.at? keys)

/-- The value that is read with a path of keys from a binding. -/
def valueIn (s : Scope) (level : Option Nat) (name : String) (keys : List Value) :
    Except Fault Value :=
  match s.binding? level name with
  | some v => keys.foldlM Value.getIndex v
  | none => .error (.undefinedName name)

/-- What is read from a name is read from the binding that is seen. -/
lemma valueAt_eq (s : Scope) (root : String) (keys : List Value) :
    s.valueAt root keys = s.valueIn (s.level root) root keys := by
  rw [valueAt, get?_eq, Value.readIndex_eq_getIndex]
  rfl

/-- What is at a place is read there. -/
lemma valueIn_of_atIn? {level : Option Nat} (h : s.atIn? level name keys = some x) :
    s.valueIn level name keys = .ok x := by
  obtain ⟨v, hv, hx⟩ := Option.bind_eq_some_iff.1 h
  rw [valueIn, hv]
  exact Value.foldlM_getIndex_of_at? hx

/-- An assignment is a write behind the steps of its keys, if it can be made. -/
lemma exists_write_of_assignAt (h : s.assignAt root keys value = .ok t) :
    ∃ steps, Value.steps? keys (s.get? root) = some steps ∧
      t = s.assign root (Value.write steps value (s.get? root)) := by
  rcases List.eq_nil_or_concat' keys with rfl | ⟨parents, last, rfl⟩
  · cases h
    exact ⟨[], rfl, rfl⟩
  · obtain ⟨v, parent, w, hv, hparent, hw, rfl⟩ := assignAt_concat_eq_ok_iff.1 h
    obtain ⟨step, hstep, rfl⟩ := Value.exists_put_of_setIndex hw
    obtain ⟨steps, hsteps, hput⟩ := Value.exists_write_of_putAt hparent hstep value
    exact ⟨steps, by rw [hv, hsteps], by rw [hv, hput]⟩

end Scope

/-! ## Writing and reading -/

/-- **Writing and reading agree.**  Let a value be assigned to what a path of keys leads to from a
name, bound or not.

1. If the assignment can be made, the value is read back.  Names are found where they were found
   before.  At any place that is there, in any frame or among the globals, what was read before is
   read, unless this place is the one assigned, lies in it, or has it inside.
2. To assign what is there can be done and changes nothing.  This needs what objects are held to
   anyway, that their members are in order.  Assignments keep that (`Scope.Regular.assignAt`), and
   so do all other code (`provides_exec`) and rendering (`Renderer.provides_runBlock`).

**Proof sketch.** The assignment is a write behind the steps of its keys
(`Scope.exists_write_of_assignAt`).  Steps that part lead to different values
(`Value.at?_write_other`), and to another binding nothing is written (`Scope.binding?_assign`). -/
theorem assignAt_lens (s : Scope) (root : String) (keys : List Value) (value : Value) :
    (∀ t, s.assignAt root keys value = .ok t →
      t.valueAt root keys = .ok value ∧ t.level = s.level ∧
      ∃ p, s.place? (s.level root) root keys = some p ∧
        ∀ level name keys' x, s.atIn? level name keys' = some x →
          ∃ q, s.place? level name keys' = some q ∧ s.valueIn level name keys' = .ok x ∧
            (¬ p.Meets q → t.valueIn level name keys' = .ok x)) ∧
    (s.Regular → s.at? root keys = some value → s.assignAt root keys value = .ok s) := by
  constructor
  · intro t h
    obtain ⟨steps, hsteps, rfl⟩ := Scope.exists_write_of_assignAt h
    have hlevel := s.level_assign root (Value.write steps value (s.get? root))
    refine ⟨?_, hlevel, ⟨s.level root, root, steps⟩, ?_, ?_⟩
    · rw [Scope.valueAt_eq, hlevel]
      refine Scope.valueIn_of_atIn? ?_
      rw [Scope.atIn?, Scope.binding?_assign, if_pos ⟨rfl, rfl⟩]
      exact Value.at?_write_same hsteps value
    · rw [Scope.place?, ← Scope.get?_eq, hsteps]
      rfl
    · intro level name keys' x hx
      obtain ⟨v, hv, hat⟩ := Option.bind_eq_some_iff.1 hx
      obtain ⟨steps', hsteps'⟩ := Value.exists_steps? hat
      refine ⟨⟨level, name, steps'⟩, by rw [Scope.place?, hv, hsteps']; rfl,
        Scope.valueIn_of_atIn? hx, fun hmeets => Scope.valueIn_of_atIn? ?_⟩
      rw [Scope.atIn?, Scope.binding?_assign]
      split
      · next hhere =>
        obtain ⟨rfl, rfl⟩ := hhere
        rw [← Scope.get?_eq] at hv
        rw [hv] at hsteps ⊢
        have hout : ¬ steps <+: steps' := fun hprefix => hmeets ⟨rfl, rfl, .inl hprefix⟩
        have hin : ¬ steps' <+: steps := fun hprefix => hmeets ⟨rfl, rfl, .inr hprefix⟩
        exact Value.at?_write_other hsteps hsteps' hat hout hin value
      · exact hx
  · intro hs hat
    obtain ⟨v, hv, hx⟩ := Option.bind_eq_some_iff.1 hat
    rcases List.eq_nil_or_concat' keys with rfl | ⟨parents, last, rfl⟩
    · cases hx
      exact congrArg Except.ok (hs.assign_self hv)
    · obtain ⟨parent, hparent, hlast⟩ := Value.at?_concat_eq_some_iff.1 hx
      have hroot := hs.get? hv
      refine Scope.assignAt_concat_eq_ok_iff.2 ⟨v, parent, parent, hv, hparent,
        (hroot.at? hparent).setIndex_self hlast, ?_⟩
      rw [hroot.putAt_self hparent, hs.assign_self hv]

/-- A list that grows, in a frame that hides another binding of the name.  An element before it and
the other binding are read as before, and to assign the same once more changes nothing. -/
theorem assignAt_lens_growing :
    let page (tags : List Value) : Value := .object [("tags", .list tags), ("title", .text "Home")]
    let scope (tags : List Value) : Scope :=
      { globals := [("page", page [])]
        frames := [{}, { vars := [("page", page tags)], isolated := true }] }
    let s := scope [.text "a", .text "b"]
    let t := scope [.text "a", .text "b", .null, .text "c"]
    let keys := [Value.text "tags", .ofNat 3]
    s.assignAt "page" keys (.text "c") = .ok t ∧ t.valueAt "page" keys = .ok (.text "c") ∧
      t.valueIn (some 1) "page" [.text "tags", .ofNat 1] = .ok (.text "b") ∧
      t.valueIn none "page" [.text "tags"] = .ok (.list []) ∧
      t.Regular ∧ t.at? "page" keys = some (.text "c") ∧
      t.assignAt "page" keys (.text "c") = .ok t := by
  intro page scope s t keys
  have hassign : s.assignAt "page" keys (.text "c") = .ok t := rfl
  have hat : t.at? "page" keys = some (.text "c") := rfl
  have hpage : ∀ {tags : List Value}, (Value.list tags).Regular →
      (Value.object [("page", page tags)]).Regular := by
    intro tags htags
    have horder : "tags" < "title" := by decide
    refine .object (List.pairwise_singleton _ _) (List.forall_mem_singleton.2 ?_)
    refine .object (List.pairwise_pair.2 horder) ?_
    simpa using ⟨htags, Value.Regular.text "Home"⟩
  have hregular : t.Regular := by
    refine ⟨hpage (.list nofun), ?_⟩
    simp only [t, scope, List.mem_cons, List.not_mem_nil, or_false, forall_eq_or_imp, forall_eq]
    refine ⟨.object .nil nofun, hpage (.list ?_)⟩
    simpa using ⟨Value.Regular.text "a", Value.Regular.text "b", Value.Regular.null,
      Value.Regular.text "c"⟩
  obtain ⟨hread, -, p, hp, hothers⟩ := (assignAt_lens s "page" keys (.text "c")).1 t hassign
  obtain ⟨q, hq, -, hbefore⟩ := hothers (some 1) "page" [.text "tags", .ofNat 1] (.text "b") rfl
  obtain ⟨q', hq', -, hhidden⟩ := hothers none "page" [.text "tags"] (.list []) rfl
  cases hp
  cases hq
  cases hq'
  exact ⟨hassign, hread, hbefore (by decide), hhidden (by decide), hregular, hat,
    (assignAt_lens t "page" keys (.text "c")).2 hregular hat⟩

end Stencil.Script
