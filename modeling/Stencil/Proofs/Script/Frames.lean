import Mathlib.Data.List.Forall2
import Mathlib.Tactic.Lemma
import Stencil.Script.Scope

/-!
# What reading and writing do to frames

A name is looked for from the innermost frame outwards.  An assignment and a `var` declaration write
in one of the frames that they come by, and leave all others.

## Main definitions

* `Stencil.Script.Frame.IsBlock` — whether a frame is that of a block.
* `Stencil.Script.Frame.Grows` — frames of which the second binds what the first does.

## Main results

* `Stencil.Script.Scope.grows_replaceIn?`, `grows_declareVarIn?` — no binding is taken away.
* `Stencil.Script.Scope.isSome_replaceIn?` — a name is assigned where it is seen.
* `Stencil.Script.Scope.replaceIn?_append`, `declareVarIn?_append`, `lookup?_append` — what is found
  in the frames above is not looked for below.
-/

set_option relaxedAutoImplicit false
set_option autoImplicit false

namespace Stencil.Script

/-- A frame with one binding binds its name. -/
lemma contains_binding {binding name : String} (hname : name ∈ [binding]) (v : Value) :
    Fields.contains name [(binding, v)] = true := by
  simp [Fields.contains, Fields.get?, List.mem_singleton.1 hname]

/-! ## One frame -/

/-- **Whether a frame is that of a block:** it neither receives `var` declarations nor hides
anything. -/
def Frame.IsBlock (f : Frame) : Prop := f.isFunction = false ∧ f.isolated = false

namespace Scope

variable {f : Frame} {name : String} {outer : List Frame}

/-- An assignment stops at the first frame that binds the name. -/
lemma replaceIn?_bound (h : Fields.contains name f.vars) (value : Value) (rest : List Frame) :
    replaceIn? name value (f :: rest) =
      some ({ f with vars := f.vars.insert name value } :: rest) := by
  rw [replaceIn?, if_pos h]

/-- An assignment goes no further than an isolated frame. -/
lemma replaceIn?_hidden (hf : f.isolated = true) (h : ¬ Fields.contains name f.vars)
    (value : Value) (rest : List Frame) : replaceIn? name value (f :: rest) = none := by
  rw [replaceIn?, if_neg h, if_pos hf]

/-- An assignment passes by a block frame that does not bind the name. -/
lemma replaceIn?_passed (hf : f.IsBlock) (h : Fields.get? name f.vars = none) (value : Value)
    (rest : List Frame) :
    replaceIn? name value (f :: rest) = (replaceIn? name value rest).map (f :: ·) := by
  rw [replaceIn?, if_neg (by simp [Fields.contains, h]), if_neg (by simp [hf.2])]

/-- A `var` declaration passes by a block frame. -/
lemma declareVarIn?_passed (hf : f.IsBlock) (name : String) (value : Value)
    (rest : List Frame) :
    declareVarIn? name value (f :: rest) = (declareVarIn? name value rest).map (f :: ·) := by
  rw [declareVarIn?, if_neg (by simp [hf.1])]

/-- A name that a frame binds is seen from it. -/
lemma isSome_lookup?_bound (h : Fields.contains name f.vars = true) :
    (lookup? name (f :: outer)).isSome := by
  obtain ⟨v, hv⟩ := Option.isSome_iff_exists.1 h
  rw [lookup?, hv]
  rfl

/-- A name that is seen around a frame is seen from it, unless it hides this. -/
lemma isSome_lookup?_passed (hf : f.isolated = false) (h : (lookup? name outer).isSome) :
    (lookup? name (f :: outer)).isSome := by
  rw [lookup?, hf]
  cases Fields.get? name f.vars with
  | some v => rfl
  | none => exact h

/-- **A name is assigned where it is seen.** -/
lemma isSome_replaceIn? (name : String) (value : Value) (frames : List Frame) :
    (replaceIn? name value frames).isSome = (lookup? name frames).isSome := by
  induction frames with
  | nil => rfl
  | cons f rest ih =>
    rw [replaceIn?, lookup?, Fields.contains]
    split
    · next hbound =>
      obtain ⟨v, hv⟩ := Option.isSome_iff_exists.1 hbound
      rw [hv]
      rfl
    · next hbound =>
      rw [Option.not_isSome_iff_eq_none.1 hbound]
      cases f.isolated with
      | true => rfl
      | false => simpa using ih

end Scope

/-! ## Frames that bind more and more -/

/-- **Frames of which the second binds what the first does,** and is of the same kind. -/
structure Frame.Grows (f g : Frame) : Prop where
  /-- Both receive `var` declarations, or neither. -/
  isFunction_eq : g.isFunction = f.isFunction
  /-- Both hide the frames around them, or neither. -/
  isolated_eq : g.isolated = f.isolated
  /-- What was bound is bound. -/
  contains : ∀ ⦃name⦄, Fields.contains name f.vars = true → Fields.contains name g.vars = true

/-- A frame binds what it binds. -/
@[refl]
lemma Frame.Grows.refl (f : Frame) : f.Grows f := ⟨rfl, rfl, fun _ h => h⟩

/-- Frames bind what they bind. -/
lemma Frame.grows_refl (frames : List Frame) : List.Forall₂ Frame.Grows frames frames :=
  List.forall₂_same.2 fun f _ => .refl f

/-- A frame with one more binding. -/
lemma Frame.grows_insert (f : Frame) (name : String) (value : Value) :
    f.Grows { f with vars := f.vars.insert name value } where
  isFunction_eq := rfl
  isolated_eq := rfl
  contains other h := by
    by_cases heq : other = name
    · subst heq
      simp [Fields.contains]
    · rwa [Fields.contains, Fields.get?_insert_other heq]

namespace Scope

variable {name : String} {value : Value} {above after : List Frame}

/-- An assignment takes no binding away. -/
lemma grows_replaceIn? (h : replaceIn? name value above = some after) :
    List.Forall₂ Frame.Grows above after := by
  induction above generalizing after with
  | nil => cases h
  | cons f rest ih =>
    rw [replaceIn?] at h
    split at h
    · cases h
      exact .cons (f.grows_insert name value) (Frame.grows_refl rest)
    · split at h
      · cases h
      · obtain ⟨rest', hrest, rfl⟩ := Option.map_eq_some_iff.1 h
        exact .cons (.refl f) (ih hrest)

/-- Nor does a `var` declaration. -/
lemma grows_declareVarIn? (h : declareVarIn? name value above = some after) :
    List.Forall₂ Frame.Grows above after := by
  induction above generalizing after with
  | nil => cases h
  | cons f rest ih =>
    rw [declareVarIn?] at h
    split at h
    · cases h
      exact .cons (f.grows_insert name value) (Frame.grows_refl rest)
    · obtain ⟨rest', hrest, rfl⟩ := Option.map_eq_some_iff.1 h
      exact .cons (.refl f) (ih hrest)

/-- A name that is seen is still seen when the frames bind more.

**Proof sketch.** Induction on the frames.  A frame that binds more still binds the name, or it may
bind it now. -/
lemma isSome_lookup?_of_grows (hgrows : List.Forall₂ Frame.Grows above after)
    (h : (lookup? name above).isSome) : (lookup? name after).isSome := by
  induction hgrows with
  | nil => exact h
  | @cons f g rest rest' hfg _ ih =>
    simp only [lookup?, hfg.isolated_eq] at h ⊢
    cases hg : Fields.get? name g.vars with
    | some v => rfl
    | none =>
      have hf : Fields.get? name f.vars = none := by
        by_contra hne
        have hbound := hfg.contains (Option.isSome_iff_ne_none.2 hne)
        simp [Fields.contains, hg] at hbound
      rw [hf] at h
      dsimp only at h ⊢
      split at h
      · cases h
      · next hseen =>
        rw [if_neg hseen]
        exact ih h

/-- An assignment leaves the number of frames as it is. -/
lemma length_replaceIn? (h : replaceIn? name value above = some after) :
    after.length = above.length :=
  (grows_replaceIn? h).length_eq.symm

/-- A `var` declaration leaves the number of frames as it is. -/
lemma length_declareVarIn? (h : declareVarIn? name value above = some after) :
    after.length = above.length :=
  (grows_declareVarIn? h).length_eq.symm

/-! ## Frames on top of others -/

/-- An assignment that finds the name above leaves what is below. -/
lemma replaceIn?_append (h : replaceIn? name value above = some after) (below : List Frame) :
    replaceIn? name value (above ++ below) = some (after ++ below) := by
  induction above generalizing after with
  | nil => cases h
  | cons f rest ih =>
    rw [replaceIn?] at h
    rw [List.cons_append, replaceIn?]
    split at h
    · next hbound =>
      cases h
      rw [if_pos hbound]
      rfl
    · next hbound =>
      split at h
      · cases h
      · next hseen =>
        obtain ⟨rest', hrest, rfl⟩ := Option.map_eq_some_iff.1 h
        rw [if_neg hbound, if_neg hseen, ih hrest]
        rfl

/-- A declaration that finds a function frame above leaves what is below. -/
lemma declareVarIn?_append (h : declareVarIn? name value above = some after)
    (below : List Frame) : declareVarIn? name value (above ++ below) = some (after ++ below) := by
  induction above generalizing after with
  | nil => cases h
  | cons f rest ih =>
    rw [declareVarIn?] at h
    rw [List.cons_append, declareVarIn?]
    split at h
    · next hfunction =>
      cases h
      rw [if_pos hfunction]
      rfl
    · next hfunction =>
      obtain ⟨rest', hrest, rfl⟩ := Option.map_eq_some_iff.1 h
      rw [if_neg hfunction, ih hrest]
      rfl

/-- A name is seen above, or else below, unless this is hidden. -/
lemma lookup?_append (name : String) (above below : List Frame) :
    lookup? name (above ++ below) = (lookup? name above).or
      (if above.any (·.isolated) then none else lookup? name below) := by
  induction above with
  | nil => simp [lookup?]
  | cons f rest ih =>
    rw [List.cons_append, lookup?, lookup?, ih, List.any_cons]
    cases Fields.get? name f.vars with
    | some v => rfl
    | none => cases f.isolated <;> simp

/-- Frames that are cut off leave those beneath them. -/
lemma truncate_append {s : Scope} {above below : List Frame}
    (h : s.frames = above ++ below) : s.truncate below.length = { s with frames := below } := by
  have hlen : s.frames.length - below.length = above.length := by
    rw [h, List.length_append, Nat.add_sub_cancel]
  rw [truncate, hlen, h, List.drop_left]

/-! ## The number of frames -/

/-- An assignment leaves the number of frames as it is. -/
lemma depth_assign (s : Scope) (name : String) (value : Value) :
    (s.assign name value).depth = s.depth := by
  unfold assign depth
  split
  · next after h => exact length_replaceIn? h
  · rfl

/-- A declaration in the innermost frame leaves the number of frames as it is. -/
lemma depth_declare (s : Scope) (name : String) (value : Value) :
    (s.declare name value).depth = s.depth := by
  unfold declare depth
  split
  · rfl
  · next h => rw [h, List.length_cons, List.length_cons]

/-- Frames that are cut off are gone, and no others. -/
lemma depth_truncate {s : Scope} {depth : Nat} (h : depth ≤ s.depth) :
    (s.truncate depth).depth = depth := by
  show (s.frames.drop (s.frames.length - depth)).length = depth
  rw [List.length_drop]
  exact Nat.sub_sub_self h

end Scope

end Stencil.Script
