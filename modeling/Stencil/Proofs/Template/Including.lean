import Mathlib.Tactic.Lemma
import Stencil.Template.Compiled

/-!
# Includes that are come to

A pass goes through the segments of a template and follows the directives on its way, and it ends at
the first of them that fails.

## Main definitions

* `Stencil.Template.nested` — how an included template is compiled.
* `Stencil.Pass.ComesTo`, `Stencil.Template.ComesTo` — the directives that a pass comes to: nothing
  before them fails.
* `Stencil.Template.Includes` — the templates that the directives it comes to name.

## Main results

* `Stencil.Template.Includes.expand_eq_error` — a template fails as the first include in it that
  fails.
* `Stencil.Template.exists_includes` — if it fails for how templates include each other, then some
  include in it does.
-/

set_option relaxedAutoImplicit false
set_option autoImplicit false

namespace Stencil

/-- Whether an error is about how templates include each other. -/
def CompileError.isOfIncludes : CompileError → Bool
  | cyclicInclude _ _ | nestedTooDeep => true
  | _ => false

/-! ## Passes -/

namespace Pass

variable {t : Template} {follow : Directive → Pass → Except CompileError Pass}

/-- **The directives that a pass comes to,** and what it has gathered by then.  Every opening tag
before the directive is closed, and no directive before it fails. -/
inductive ComesTo (t : Template) (follow : Directive → Pass → Except CompileError Pass) :
    Option Tag → Pass → List Segment → Directive → Pass → Prop
  /-- The first segment is the directive. -/
  | here {before : Option Tag} {p : Pass} {s : Segment} {behind : List Segment} {d : Directive} :
    directive? before s = some d → ComesTo t follow before p (s :: behind) d p
  /-- The directive is behind the first segment. -/
  | later {before : Option Tag} {p q r : Pass} {s : Segment} {behind : List Segment}
      {d : Directive} :
    (s.tag.any Tag.isOpener && !isClosed behind) = false →
    p.segment t.options follow before s = .ok q → ComesTo t follow s.tag q behind d r →
    ComesTo t follow before p (s :: behind) d r

/-- What is a directive is no tag. -/
lemma tag_eq_none {before : Option Tag} {s : Segment} {d : Directive}
    (h : directive? before s = some d) : s.tag = none := by
  unfold directive? at h
  split at h
  · next hboth => exact Option.isNone_iff_eq_none.1 (Bool.and_eq_true_iff.1 hboth).1
  · cases h

/-- A pass fails as the directive that it comes to. -/
lemma ComesTo.segments_eq_error {before : Option Tag} {p q : Pass} {segments : List Segment}
    {d : Directive} {e : CompileError} (h : ComesTo t follow before p segments d q)
    (he : follow d q = .error e) : p.segments t follow before segments = .error e := by
  induction h with
  | here hd =>
    rw [Pass.segments, tag_eq_none hd]
    simp only [segment, hd, he]
    rfl
  | later hclosed hsegment _ ih =>
    rw [Pass.segments, hclosed, hsegment]
    exact ih he

/-- A pass that fails stops at an opening tag or at a directive that it comes to.

**Proof sketch.** Induction on the segments.  A segment that is read does not fail, so the pass
fails where an opening tag is not closed, or where a directive cannot be followed. -/
lemma exists_comesTo {before : Option Tag} {p : Pass} {segments : List Segment} {e : CompileError}
    (h : p.segments t follow before segments = .error e) :
    (∃ s, e = t.unclosed s) ∨
      ∃ d q, ComesTo t follow before p segments d q ∧ follow d q = .error e := by
  induction segments generalizing before p with
  | nil => cases h
  | cons s behind ih =>
    rw [Pass.segments] at h
    split at h
    · cases h
      exact .inl ⟨s, rfl⟩
    · next hclosed =>
      cases hsegment : p.segment t.options follow before s with
      | ok q =>
        rw [hsegment] at h
        rcases ih h with hopen | ⟨d, r, hcomes, hfollow⟩
        · exact .inl hopen
        · exact .inr ⟨d, r, .later (Bool.not_eq_true _ ▸ hclosed) hsegment hcomes, hfollow⟩
      | error e' =>
        rw [hsegment] at h
        cases h
        unfold segment at hsegment
        split at hsegment
        · next d hd =>
          cases hfollow : follow d p with
          | ok q => rw [hfollow] at hsegment; cases hsegment
          | error e' =>
            rw [hfollow] at hsegment
            cases hsegment
            exact .inr ⟨d, p, .here hd, hfollow⟩
        · cases hsegment

end Pass

namespace Template

variable {w : Workspace} {t : Template}

/-! ## Nested templates -/

/-- How a template that another includes is compiled: not at all if it is on the chain already, and
otherwise from its text in the library, unless it is nested too deep. -/
def nested (w : Workspace) (t : Template) : Nested := fun path component =>
  if t.isActive path then .error (t.cyclic path)
  else
    match w.library.read path with
    | .error reason => .error (.unreadableInclude path reason)
    | .ok text =>
      if t.chain.length < w.depth then expand w (t.including path component text)
      else .error .nestedTooDeep

/-- Compiling a template is one pass, in which every include is compiled likewise. -/
theorem expand_eq (w : Workspace) (t : Template) :
    expand w t = (t.pass (t.follow w (t.nested w)) t.start).map t.compiled := by
  rw [expand.eq_def]
  refine congrArg (fun n => Except.map t.compiled (t.pass (t.follow w n) t.start)) ?_
  funext path component
  unfold nested
  cases w.library.read path <;> simp only [dite_eq_ite]

/-- An include of a template on the chain is a cycle. -/
lemma nested_of_isActive {path : Path} (h : t.isActive path = true)
    (component : Option Component) : t.nested w path component = .error (t.cyclic path) := by
  rw [nested, if_pos h]

/-- An include of any other template that can be read is that template, unless it is nested too
deep. -/
lemma nested_of_read {path : Path} {text : String} (h : t.isActive path = false)
    (hread : w.library.read path = .ok text) (hdepth : t.chain.length < w.depth)
    (component : Option Component) :
    t.nested w path component = expand w (t.including path component text) := by
  simp only [nested, h, hread, Bool.false_eq_true, if_false, if_pos hdepth]

/-- A nested template that compiles is not on the chain, not nested too deep, and can be read. -/
lemma exists_of_nested {path : Path} {component : Option Component} {c : Compiled}
    (h : t.nested w path component = .ok c) :
    t.isActive path = false ∧ t.chain.length < w.depth ∧
      ∃ text, w.library.read path = .ok text ∧
        expand w (t.including path component text) = .ok c := by
  unfold nested at h
  split at h
  · cases h
  · next hnew =>
    cases hread : w.library.read path with
    | error reason => rw [hread] at h; cases h
    | ok text =>
      simp only [hread] at h
      split at h
      · next hdepth => exact ⟨Bool.not_eq_true _ ▸ hnew, hdepth, text, rfl, h⟩
      · cases h

/-- A nested template leaves less room for others. -/
lemma room_including (hdepth : t.chain.length < w.depth) (path : Path)
    (component : Option Component) (text : String) :
    w.depth - (t.including path component text).chain.length < w.depth - t.chain.length := by
  simp only [including, List.length_append, List.length_singleton]
  omega

/-! ## Directives that are come to -/

/-- **The directives that compiling a template comes to.** -/
def ComesTo (w : Workspace) (t : Template) (d : Directive) (p : Pass) : Prop :=
  ∃ segments, Segment.splitChecked t.options.delimiter t.text = .ok segments ∧
    Pass.ComesTo t (t.follow w (t.nested w)) none t.start segments d p

/-- The template that a directive includes, and the component that it comes from, if it includes
any. -/
def target? (w : Workspace) (t : Template) : Directive → Option (Path × Option Component)
  | .includeFile reference _ =>
    t.options.sourcePath.map fun current => (w.library.resolve reference current, none)
  | .includeComponent name _ =>
    match w.lookup name with
    | .ok c => some (c.mainTemplate, some c)
    | .error _ => none
  | _ => none

/-- **Compiling a template comes to an include** of another. -/
def Includes (w : Workspace) (t : Template) (path : Path) (component : Option Component) :
    Prop :=
  ∃ d p, ComesTo w t d p ∧ t.target? w d = some (path, component)

/-- A directive fails as the template that it includes. -/
lemma follow_eq_error {nested : Nested} {d : Directive} {p : Pass} {path : Path}
    {component : Option Component} {e : CompileError} (hd : t.target? w d = some (path, component))
    (he : nested path component = .error e) : t.follow w nested d p = .error e := by
  cases d with
  | includeFile reference params =>
    obtain ⟨current, hcurrent, htarget⟩ := Option.map_eq_some_iff.1 hd
    cases htarget
    simp only [follow, includeFile, hcurrent, he]
    rfl
  | includeComponent name params =>
    simp only [target?] at hd
    cases hlookup : w.lookup name with
    | ok c =>
      rw [hlookup] at hd
      cases hd
      simp only [follow, includeComponent, hlookup, he]
      rfl
    | error e' =>
      rw [hlookup] at hd
      cases hd
  | _ => cases hd

/-- What a directive adds to a pass depends on the template that it includes, and on no other.

**Proof sketch.** The cases of the directive.  Following it asks for a nested template at most once,
and this is its target. -/
lemma follow_congr {nested nested' : Nested} {d : Directive} (p : Pass)
    (h : ∀ {path component}, t.target? w d = some (path, component) →
      nested path component = nested' path component) :
    t.follow w nested d p = t.follow w nested' d p := by
  cases d with
  | includeFile reference params =>
    cases hcurrent : t.options.sourcePath with
    | none => simp only [follow, includeFile, hcurrent]
    | some current =>
      have htarget : t.target? w (.includeFile reference params) =
          some (w.library.resolve reference current, none) := by
        rw [target?, hcurrent, Option.map_some]
      simp only [follow, includeFile, hcurrent, h htarget]
  | includeComponent name params =>
    cases hlookup : w.lookup name with
    | error e => simp only [follow, includeComponent, hlookup]
    | ok c =>
      have htarget : t.target? w (.includeComponent name params) =
          some (c.mainTemplate, some c) := by
        rw [target?, hlookup]
      simp only [follow, includeComponent, hlookup, h htarget]
  | _ => rfl

/-- A directive that fails has no path to start from, names a component that cannot be had, or
includes a template that fails.

**Proof sketch.** The cases of the directive.  Only includes can fail, and they look for a path or a
component before they include anything. -/
lemma exists_target {nested : Nested} {d : Directive} {p : Pass} {e : CompileError}
    (h : t.follow w nested d p = .error e) :
    e = .missingPath "include" ∨ (∃ name, w.lookup name = .error e) ∨
      ∃ path component, t.target? w d = some (path, component) ∧
        nested path component = .error e := by
  cases d with
  | includeFile reference params =>
    simp only [follow, includeFile] at h
    cases hcurrent : t.options.sourcePath with
    | none =>
      rw [hcurrent] at h
      cases h
      exact .inl rfl
    | some current =>
      rw [hcurrent] at h
      cases hnested : nested (w.library.resolve reference current) none with
      | ok inner => simp only [hnested] at h; cases h
      | error e' =>
        simp only [hnested] at h
        cases h
        exact .inr (.inr ⟨_, _, by simp [target?, hcurrent], hnested⟩)
  | includeComponent name params =>
    simp only [follow, includeComponent] at h
    cases hlookup : w.lookup name with
    | error e' =>
      rw [hlookup] at h
      dsimp only at h
      split at h
      · cases h
      · cases h
        exact .inr (.inl ⟨name, hlookup⟩)
    | ok c =>
      rw [hlookup] at h
      cases hnested : nested c.mainTemplate (some c) with
      | ok inner => simp only [hnested] at h; cases h
      | error e' =>
        simp only [hnested] at h
        cases h
        exact .inr (.inr ⟨_, _, by simp [target?, hlookup], hnested⟩)
  | _ => cases h

/-! ## Failures -/

/-- **A template fails as the include that it comes to,** if that one fails. -/
theorem Includes.expand_eq_error {path : Path} {component : Option Component}
    {e : CompileError} (h : t.Includes w path component)
    (he : t.nested w path component = .error e) : expand w t = .error e := by
  obtain ⟨d, p, ⟨segments, hsegments, hcomes⟩, hd⟩ := h
  rw [expand_eq, pass, hsegments]
  show ((t.start.segments t (t.follow w (t.nested w)) none segments).map t.compiled) = .error e
  rw [hcomes.segments_eq_error (follow_eq_error hd he)]
  rfl

/-- **A template that fails for how templates include each other comes to an include that does,** if
the lookup of components does not fail so itself.

**Proof sketch.** The pass stops at an opening tag or at a directive.  Of the reasons to stop, only
a nested template can be such a failure. -/
theorem exists_includes
    (hlookup : ∀ {name e}, w.lookup name = .error e → e.isOfIncludes = false) {e : CompileError}
    (he : e.isOfIncludes = true) (h : expand w t = .error e) :
    ∃ target component, t.Includes w target component ∧
      t.nested w target component = .error e := by
  rw [expand_eq, pass] at h
  cases hsegments : Segment.splitChecked t.options.delimiter t.text with
  | error e =>
    rw [hsegments] at h
    unfold Segment.splitChecked at hsegments
    split at hsegments <;> cases hsegments
    cases h
    cases he
  | ok segments =>
    rw [hsegments] at h
    cases hpass : t.start.segments t (t.follow w (t.nested w)) none segments with
    | ok p => simp only [Except.bind, hpass] at h; cases h
    | error e =>
      simp only [Except.bind, hpass] at h
      cases h
      rcases Pass.exists_comesTo hpass with ⟨s, rfl⟩ | ⟨d, p, hcomes, hfollow⟩
      · cases he
      · rcases exists_target hfollow with rfl | ⟨name, hname⟩ | ⟨target, component, hd, hfail⟩
        · cases he
        · rw [hlookup hname] at he
          cases he
        · exact ⟨target, component, ⟨d, p, ⟨segments, hsegments, hcomes⟩, hd⟩, hfail⟩

end Template

end Stencil
