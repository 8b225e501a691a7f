import Stencil.Proofs.Script.Congruence
import Stencil.Proofs.Script.Frames

/-!
# Frames beneath other frames

Two stacks of frames that end differently but agree in all the frames above cannot be told apart by
code, if their ends cannot.  It is enough to look at the ends.  Where only declarations tell the
ends apart, code that makes none there does not.

## Main definitions

* `Stencil.Script.Over` — stacks that agree above ends that are related.
* `Stencil.Script.NameUnderlay` — ends that names and assignments do not tell apart.
* `Stencil.Script.Underlay` — ends that declarations do not tell apart either.
* `Stencil.Script.Scope.OverEnds` — scopes with such stacks and the same globals.
* `Stencil.Script.Sealed`, `Stencil.Script.Doubled`, `Stencil.Script.Padded` — kinds of ends.

## Main results

* `Stencil.Script.Underlay.frameCongruence` — ends that cannot be told apart make up stacks that
  cannot be told apart.
* `Stencil.Script.NameUnderlay.guardedCongruence` — nor can those that only declarations tell apart,
  by code that declares nothing at the ends.
* `Stencil.Script.Sealed.underlay` — nothing beneath an isolated function frame is seen.
* `Stencil.Script.Doubled.underlay` — a block frame may be split in two.
* `Stencil.Script.Padded.nameUnderlay` — names and assignments pass by an empty function frame.
-/

set_option relaxedAutoImplicit false
set_option autoImplicit false

namespace Stencil.Script

/-! ## Stacks over ends -/

/-- What may be missing on both sides stays related under a weaker relation. -/
lemma rel_imp {α β : Type} {r q : α → β → Prop} (hrq : ∀ ⦃a b⦄, r a b → q a b) {x : Option α}
    {y : Option β} (h : Option.Rel r x y) : Option.Rel q x y := by
  cases h with
  | some h => exact .some (hrq h)
  | none => exact .none

/-- What may be missing on both sides stays related when it is changed on both sides. -/
lemma rel_map {α : Type} {r q : α → α → Prop} {f : α → α} (hf : ∀ ⦃a b⦄, r a b → q (f a) (f b))
    {x y : Option α} (h : Option.Rel r x y) : Option.Rel q (x.map f) (y.map f) := by
  cases h with
  | some h => exact .some (hf h)
  | none => exact .none

/-- **Stacks that agree above ends that are related.** -/
inductive Over (B : List Frame → List Frame → Prop) : List Frame → List Frame → Prop
  /-- Ends with nothing above them. -/
  | ends {a b : List Frame} : B a b → Over B a b
  /-- One more frame on both sides. -/
  | frame {a b : List Frame} (f : Frame) : Over B a b → Over B (f :: a) (f :: b)

/-- **Ends that names and assignments do not tell apart,** each of a fixed number of frames. -/
structure NameUnderlay (m n : Nat) (B : List Frame → List Frame → Prop) : Prop where
  /-- The number of frames on the left. -/
  length_left : ∀ ⦃a b⦄, B a b → a.length = m
  /-- The number of frames on the right. -/
  length_right : ∀ ⦃a b⦄, B a b → b.length = n
  /-- A name is bound to the same value. -/
  lookup?_eq : ∀ ⦃a b⦄, B a b → ∀ name, Scope.lookup? name a = Scope.lookup? name b
  /-- An assignment finds a binding in both ends or in none. -/
  replaceIn? : ∀ ⦃a b⦄, B a b → ∀ name value,
    Option.Rel B (Scope.replaceIn? name value a) (Scope.replaceIn? name value b)

/-- **Ends that names, assignments and declarations do not tell apart.** -/
structure Underlay (m n : Nat) (B : List Frame → List Frame → Prop) : Prop
    extends NameUnderlay m n B where
  /-- A declaration finds a function frame in both ends or in none. -/
  declareVarIn? : ∀ ⦃a b⦄, B a b → ∀ name value,
    Option.Rel B (Scope.declareVarIn? name value a) (Scope.declareVarIn? name value b)
  /-- A declaration in the innermost frames, which both ends have. -/
  declare : ∀ ⦃a b⦄, B a b → ∀ name value, ∃ f g, ∃ a' b', a = f :: a' ∧ b = g :: b' ∧
    B ({ f with vars := f.vars.insert name value } :: a')
      ({ g with vars := g.vars.insert name value } :: b')

namespace Over

variable {m n : Nat} {B : List Frame → List Frame → Prop} {a b : List Frame}

/-- The ends of stacks that are related. -/
lemma exists_ends (h : Over B a b) :
    ∃ above a' b', a = above ++ a' ∧ b = above ++ b' ∧ B a' b' := by
  induction h with
  | ends h => exact ⟨[], _, _, rfl, rfl, h⟩
  | frame f _ ih =>
    obtain ⟨above, a', b', rfl, rfl, h⟩ := ih
    exact ⟨f :: above, a', b', rfl, rfl, h⟩

section Names

variable (hB : NameUnderlay m n B)

include hB

/-- Related stacks have as many frames above their ends. -/
lemma length_add (h : Over B a b) : a.length + n = b.length + m ∧ m ≤ a.length := by
  induction h with
  | ends h => rw [hB.length_left h, hB.length_right h]; omega
  | frame f _ ih => simp only [List.length_cons]; omega

/-- Stacks that are no higher than their ends are ends. -/
lemma ends_of_length (h : Over B a b) (hlen : a.length = m) : B a b := by
  cases h with
  | ends h => exact h
  | frame f h =>
    have hle := (h.length_add hB).2
    rw [List.length_cons] at hlen
    omega

/-- Stacks that are higher than their ends have the same frame on top. -/
lemma exists_frame (h : Over B a b) (hlen : m < a.length) :
    ∃ f a' b', a = f :: a' ∧ b = f :: b' ∧ Over B a' b' := by
  cases h with
  | ends h => exact absurd (hB.length_left h) (Nat.ne_of_gt hlen)
  | frame f h => exact ⟨f, _, _, rfl, rfl, h⟩

/-- Related stacks stay related without some of the frames above their ends. -/
lemma drop (h : Over B a b) {d : Nat} (hd : d + m ≤ a.length) :
    Over B (a.drop d) (b.drop d) := by
  induction h generalizing d with
  | ends h =>
    obtain rfl : d = 0 := by have := hB.length_left h; omega
    exact .ends h
  | frame f h ih =>
    cases d with
    | zero => exact .frame f h
    | succ d => exact ih (by simp only [List.length_cons] at hd; omega)

/-- A name is bound to the same value in related stacks. -/
lemma lookup?_eq (h : Over B a b) (name : String) :
    Scope.lookup? name a = Scope.lookup? name b := by
  induction h with
  | ends h => exact hB.lookup?_eq h name
  | frame f _ ih => simp only [Scope.lookup?, ih]

/-- An assignment finds a binding in both of two related stacks or in none. -/
lemma replaceIn? (h : Over B a b) (name : String) (value : Value) :
    Option.Rel (Over B) (Scope.replaceIn? name value a) (Scope.replaceIn? name value b) := by
  induction h with
  | ends h => exact rel_imp (fun _ _ => .ends) (hB.replaceIn? h name value)
  | frame f h ih =>
    simp only [Scope.replaceIn?]
    split
    · exact .some (.frame _ h)
    · split
      · exact .none
      · exact rel_map (fun _ _ => .frame f) ih

end Names

section Declarations

variable (hB : Underlay m n B)

include hB

/-- A declaration finds a function frame in both of two related stacks or in none. -/
lemma declareVarIn? (h : Over B a b) (name : String) (value : Value) :
    Option.Rel (Over B) (Scope.declareVarIn? name value a) (Scope.declareVarIn? name value b) := by
  induction h with
  | ends h => exact rel_imp (fun _ _ => .ends) (hB.declareVarIn? h name value)
  | frame f h ih =>
    simp only [Scope.declareVarIn?]
    split
    · exact .some (.frame _ h)
    · exact rel_map (fun _ _ => .frame f) ih

/-- A declaration in the innermost of two related stacks. -/
lemma declare (h : Over B a b) (name : String) (value : Value) :
    ∃ f g, ∃ a' b', a = f :: a' ∧ b = g :: b' ∧
      Over B ({ f with vars := f.vars.insert name value } :: a')
        ({ g with vars := g.vars.insert name value } :: b') := by
  cases h with
  | ends h =>
    obtain ⟨f, g, a', b', ha, hb, hends⟩ := hB.declare h name value
    exact ⟨f, g, a', b', ha, hb, .ends hends⟩
  | frame f h => exact ⟨f, f, _, _, rfl, rfl, .frame _ h⟩

end Declarations

end Over

/-! ## Scopes over ends -/

/-- **Scopes with the same globals** and frames that agree above related ends. -/
structure Scope.OverEnds (B : List Frame → List Frame → Prop) (s t : Scope) : Prop where
  /-- The globals. -/
  globals_eq : s.globals = t.globals
  /-- The frames. -/
  frames : Over B s.frames t.frames

namespace Scope.OverEnds

variable {m n : Nat} {B : List Frame → List Frame → Prop} {s t : Scope}

/-- Frames that were changed on both sides, or globals where there was nothing to change. -/
lemma changed (h : OverEnds B s t) (name : String) (value : Value) {x y : Option (List Frame)} :
    Option.Rel (Over B) x y → OverEnds B
      (match x with
        | some frames => { s with frames }
        | none => { s with globals := Fields.insert name value s.globals })
      (match y with
        | some frames => { t with frames }
        | none => { t with globals := Fields.insert name value t.globals }) := by
  intro hxy
  cases hxy with
  | some hframes => exact ⟨h.globals_eq, hframes⟩
  | none => exact ⟨congrArg (Fields.insert name value) h.globals_eq, h.frames⟩

/-- A declaration in the innermost frame. -/
lemma declare (hB : Underlay m n B) (h : OverEnds B s t) (name : String) (value : Value) :
    OverEnds B (s.declare name value) (t.declare name value) := by
  obtain ⟨f, g, a, b, hs, ht, hframes⟩ := h.frames.declare hB name value
  unfold Scope.declare
  rw [hs, ht]
  exact ⟨h.globals_eq, hframes⟩

section Names

variable (hB : NameUnderlay m n B)

include hB

/-- A declaration in the innermost frame, where this stands above the ends. -/
lemma declare_above (h : OverEnds B s t) (hlen : m < s.depth) (name : String) (value : Value) :
    OverEnds B (s.declare name value) (t.declare name value) := by
  obtain ⟨f, a, b, hs, ht, hframes⟩ := h.frames.exists_frame hB hlen
  unfold Scope.declare
  rw [hs, ht]
  exact ⟨h.globals_eq, .frame _ hframes⟩

/-- Reading and assigning names does not tell the ends apart. -/
lemma congruence : Scope.Congruence (OverEnds B) where
  get?_eq s t h name := by
    rw [Scope.get?, Scope.get?, h.frames.lookup?_eq hB, h.globals_eq]
  assign s t h name value := h.changed name value (h.frames.replaceIn? hB name value)

/-- Frames cut off above the ends. -/
lemma truncate {s' t' : Scope} (h : OverEnds B s t) (h' : OverEnds B s' t') :
    OverEnds B (s'.truncate s.depth) (t'.truncate t.depth) := by
  refine ⟨h'.globals_eq, ?_⟩
  obtain ⟨hlen, hle⟩ := h.frames.length_add hB
  obtain ⟨hlen', hle'⟩ := h'.frames.length_add hB
  have hdrop : t'.frames.length - t.frames.length = s'.frames.length - s.frames.length := by
    omega
  show Over B (s'.frames.drop (s'.frames.length - s.frames.length))
    (t'.frames.drop (t'.frames.length - t.frames.length))
  rw [hdrop]
  exact h'.frames.drop hB (by omega)

end Names

end Scope.OverEnds

/-- **Ends that cannot be told apart make up scopes that cannot be told apart.**

**Proof sketch.** Reading, assigning and declaring go down the common frames in step and then look
at the ends.  A frame that is pushed is one more common frame, and what is cut off again stands
above the ends on both sides, in equal numbers. -/
theorem Underlay.frameCongruence {m n : Nat} {B : List Frame → List Frame → Prop}
    (hB : Underlay m n B) :
    Scope.FrameCongruence (fun _ i => i) (fun _ : Unit => Scope.OverEnds B) where
  congruence _ := Scope.OverEnds.congruence hB.toNameUnderlay
  declare _ _ _ h name value := h.declare hB name value
  declareVar _ _ _ h name value := h.changed name value (h.frames.declareVarIn? hB name value)
  push _ _ _ h f := ⟨h.globals_eq, .frame f h.frames⟩
  truncate _ _ _ _ _ _ h h' := h.truncate hB.toNameUnderlay h'

/-! ## Code that declares nothing at the ends -/

/-- The declarations that stay inside: those in a frame of the code's own, except `var`s, which
may go further out. -/
def staysInside (inner : Bool) (kind : DeclKind) : Bool := inner && decide (kind ≠ .var)

/-- **Ends that names and assignments do not tell apart** make up scopes that are not told apart by
code that declares nothing at the ends.

**Proof sketch.** The index is the number of frames above the ends.  While there are none, only
names are read and assigned; a declaration above goes into a frame that both sides have. -/
theorem NameUnderlay.guardedCongruence {m n : Nat} {B : List Frame → List Frame → Prop}
    (hB : NameUnderlay m n B) :
    Scope.GuardedCongruence (fun _ k => k + 1) staysInside (fun k => decide (0 < k))
      fun k s t => Scope.OverEnds B s t ∧ s.depth = m + k where
  congruence k :=
    { get?_eq := fun s t h => (Scope.OverEnds.congruence hB).get?_eq h.1
      assign := fun s t h name value =>
        ⟨(Scope.OverEnds.congruence hB).assign h.1 name value,
          (s.depth_assign name value).trans h.2⟩ }
  declareAs k kind hallowed s t h name value := by
    obtain ⟨hk, hkind⟩ : 0 < k ∧ kind ≠ .var := by simpa [staysInside] using hallowed
    unfold Scope.declareAs
    rw [if_neg hkind, if_neg hkind]
    exact ⟨h.1.declare_above hB (by omega) name value, (s.depth_declare name value).trans h.2⟩
  push k s t h f := by
    refine ⟨⟨h.1.globals_eq, .frame f h.1.frames⟩, ?_⟩
    show s.depth + 1 = m + (k + 1)
    omega
  truncate k s t s' t' f h h' :=
    ⟨h.1.truncate hB h'.1, (Scope.depth_truncate (by omega)).trans h.2⟩
  inner_enter f k := decide_eq_true k.succ_pos

/-! ## Isolated frames -/

/-- **An isolated function frame** above any frames on both sides. -/
def Sealed (outer outer' : List Frame) (a b : List Frame) : Prop :=
  ∃ f : Frame, f.isolated = true ∧ f.isFunction = true ∧ a = f :: outer ∧ b = f :: outer'

/-- **Nothing beneath an isolated function frame is seen** or changed.

**Proof sketch.** Looking for a name ends at the frame, and so does looking for a place to declare
it. -/
theorem Sealed.underlay (outer outer' : List Frame) :
    Underlay (outer.length + 1) (outer'.length + 1) (Sealed outer outer') where
  length_left := by
    rintro a b ⟨f, -, -, rfl, rfl⟩
    rfl
  length_right := by
    rintro a b ⟨f, -, -, rfl, rfl⟩
    rfl
  lookup?_eq := by
    rintro a b ⟨f, hiso, -, rfl, rfl⟩ name
    simp [Scope.lookup?, hiso]
  replaceIn? := by
    rintro a b ⟨f, hiso, hfun, rfl, rfl⟩ name value
    by_cases hname : Fields.contains name f.vars
    · rw [Scope.replaceIn?_bound hname, Scope.replaceIn?_bound hname]
      exact .some ⟨{ f with vars := f.vars.insert name value }, hiso, hfun, rfl, rfl⟩
    · rw [Scope.replaceIn?_hidden hiso hname, Scope.replaceIn?_hidden hiso hname]
      exact .none
  declareVarIn? := by
    rintro a b ⟨f, hiso, hfun, rfl, rfl⟩ name value
    rw [Scope.declareVarIn?, Scope.declareVarIn?, if_pos hfun, if_pos hfun]
    exact .some ⟨{ f with vars := f.vars.insert name value }, hiso, hfun, rfl, rfl⟩
  declare := by
    rintro a b ⟨f, hiso, hfun, rfl, rfl⟩ name value
    exact ⟨f, f, _, _, rfl, rfl, { f with vars := f.vars.insert name value }, hiso, hfun, rfl, rfl⟩

/-! ## Block frames -/

/-- **Two block frames above some number of frames,** and one that binds what the two bind. -/
def Doubled (depth : Nat) (a b : List Frame) : Prop :=
  ∃ (f g h : Frame) (outer : List Frame), f.IsBlock ∧ g.IsBlock ∧ h.IsBlock ∧
    (∀ name, Fields.get? name h.vars = (Fields.get? name f.vars).or (Fields.get? name g.vars)) ∧
    outer.length = depth ∧ a = f :: g :: outer ∧ b = h :: outer

section Doubled

variable {f g h : Fields Value}
  (hvars : ∀ name, Fields.get? name h = (Fields.get? name f).or (Fields.get? name g))

include hvars

/-- Binding a name in the upper of two frames is binding it in the one frame. -/
lemma get?_insert_upper (name : String) (value : Value) (other : String) :
    Fields.get? other (h.insert name value) =
      (Fields.get? other (f.insert name value)).or (Fields.get? other g) := by
  by_cases heq : other = name
  · subst heq
    simp
  · rw [Fields.get?_insert_other heq, Fields.get?_insert_other heq, hvars]

/-- Binding a name in the lower of two frames is binding it in the one frame, unless the upper
binds it. -/
lemma get?_insert_lower {name : String} (hname : Fields.get? name f = none) (value : Value)
    (other : String) :
    Fields.get? other (h.insert name value) =
      (Fields.get? other f).or (Fields.get? other (g.insert name value)) := by
  by_cases heq : other = name
  · subst heq
    simp [hname]
  · rw [Fields.get?_insert_other heq, Fields.get?_insert_other heq, hvars]

end Doubled

/-- **A block frame may be split in two.**

**Proof sketch.** What the one frame binds is bound in the upper of the two or else in the lower,
and so an assignment finds it in one of them just if it finds it in the one frame.  A `var`
declaration passes all three frames by.  The frames further out are the same on both sides, and
change alike. -/
theorem Doubled.underlay (depth : Nat) : Underlay (depth + 2) (depth + 1) (Doubled depth) where
  length_left := by
    rintro a b ⟨f, g, h, outer, -, -, -, -, hlen, rfl, rfl⟩
    simp [hlen]
  length_right := by
    rintro a b ⟨f, g, h, outer, -, -, -, -, hlen, rfl, rfl⟩
    simp [hlen]
  lookup?_eq := by
    rintro a b ⟨f, g, h, outer, hf, hg, hh, hvars, -, rfl, rfl⟩ name
    simp only [Scope.lookup?, hf.2, hg.2, hh.2, hvars]
    cases Fields.get? name f.vars <;> cases Fields.get? name g.vars <;> simp
  replaceIn? := by
    rintro a b ⟨f, g, h, outer, hf, hg, hh, hvars, hlen, rfl, rfl⟩ name value
    cases hfn : Fields.get? name f.vars with
    | some v =>
      have hhn : Fields.contains name h.vars := by simp [Fields.contains, hvars, hfn]
      rw [Scope.replaceIn?_bound (by simp [Fields.contains, hfn]), Scope.replaceIn?_bound hhn]
      exact .some ⟨{ f with vars := f.vars.insert name value }, g,
        { h with vars := h.vars.insert name value }, outer, hf, hg, hh,
        get?_insert_upper hvars name value, hlen, rfl, rfl⟩
    | none =>
      rw [Scope.replaceIn?_passed hf hfn]
      cases hgn : Fields.get? name g.vars with
      | some v =>
        have hhn : Fields.contains name h.vars := by simp [Fields.contains, hvars, hfn, hgn]
        rw [Scope.replaceIn?_bound (by simp [Fields.contains, hgn]), Scope.replaceIn?_bound hhn]
        exact .some ⟨f, { g with vars := g.vars.insert name value },
          { h with vars := h.vars.insert name value }, outer, hf, hg, hh,
          get?_insert_lower hvars hfn value, hlen, rfl, rfl⟩
      | none =>
        have hhn : Fields.get? name h.vars = none := by simp [hvars, hfn, hgn]
        rw [Scope.replaceIn?_passed hg hgn, Scope.replaceIn?_passed hh hhn]
        cases houter : Scope.replaceIn? name value outer with
        | none => exact .none
        | some after =>
          exact .some ⟨f, g, h, after, hf, hg, hh, hvars,
            (Scope.length_replaceIn? houter).trans hlen, rfl, rfl⟩
  declareVarIn? := by
    rintro a b ⟨f, g, h, outer, hf, hg, hh, hvars, hlen, rfl, rfl⟩ name value
    rw [Scope.declareVarIn?_passed hf, Scope.declareVarIn?_passed hg,
      Scope.declareVarIn?_passed hh]
    cases houter : Scope.declareVarIn? name value outer with
    | none => exact .none
    | some after =>
      exact .some ⟨f, g, h, after, hf, hg, hh, hvars,
        (Scope.length_declareVarIn? houter).trans hlen, rfl, rfl⟩
  declare := by
    rintro a b ⟨f, g, h, outer, hf, hg, hh, hvars, hlen, rfl, rfl⟩ name value
    exact ⟨f, h, _, _, rfl, rfl, { f with vars := f.vars.insert name value }, g,
      { h with vars := h.vars.insert name value }, outer, hf, hg, hh,
      get?_insert_upper hvars name value, hlen, rfl, rfl⟩

/-! ## Empty frames -/

/-- **An empty function frame** above some number of frames, and these frames alone. -/
def Padded (depth : Nat) (a b : List Frame) : Prop :=
  b.length = depth ∧ a = { isFunction := true } :: b

/-- **Names and assignments pass by an empty function frame.**  Declarations do not: they go into
it. -/
theorem Padded.nameUnderlay (depth : Nat) : NameUnderlay (depth + 1) depth (Padded depth) where
  length_left := by
    rintro a b ⟨rfl, rfl⟩
    rfl
  length_right := by
    rintro a b ⟨rfl, -⟩
    rfl
  lookup?_eq := by
    rintro a b ⟨-, rfl⟩ name
    rfl
  replaceIn? := by
    rintro a b ⟨hlen, rfl⟩ name value
    have hpassed : Scope.replaceIn? name value ({ isFunction := true } :: b) =
        (Scope.replaceIn? name value b).map ({ isFunction := true } :: ·) := rfl
    rw [hpassed]
    cases hb : Scope.replaceIn? name value b with
    | none => exact .none
    | some after => exact .some ⟨(Scope.length_replaceIn? hb).trans hlen, rfl⟩

/-- Without the empty function frame, scopes that differ in it alone are the same. -/
lemma Scope.OverEnds.truncate_padded {depth : Nat} {s t : Scope}
    (h : OverEnds (Padded depth) s t) (hdepth : s.depth = depth + 1) : s.truncate depth = t := by
  obtain ⟨hlen, hframes⟩ := h.frames.ends_of_length (Padded.nameUnderlay depth) hdepth
  have hsplit : s.frames = [{ isFunction := true }] ++ t.frames := hframes
  have hcut := Scope.truncate_append hsplit
  rw [hlen] at hcut
  rw [hcut, h.globals_eq]

end Stencil.Script
