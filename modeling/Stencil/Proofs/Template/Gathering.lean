import Stencil.Proofs.Template.Reading

/-!
# What a pass has gathered on its way

A template is compiled segment by segment, and what a pass has gathered behind some of them depends
on these alone.  So what holds of a compiled template is shown of the pass behind any of its
segments, by induction on them.

## Main definitions

* `Stencil.Segment.directives` — the directives among segments.
* `Stencil.Directive.refer` — the directives that name assets, by the kind of the asset.
* `Stencil.Template.Gathers` — what the pass over a template has gathered behind some segments.
* `Stencil.Template.Follows` — what a directive adds to a pass, for each kind of directive.

## Main results

* `Stencil.Template.gathers_of_expand` — a template that compiles has gathered what it is compiled
  to behind all of its segments.
* `Stencil.Template.Gathers.exists_segment` — one more segment is read, or followed as a directive.
* `Stencil.Template.Follows.of_follow` — what following a directive comes to.
* `Stencil.Template.expand_induction` — what is so of a compiled template if it is so of those that
  it includes.
-/

set_option relaxedAutoImplicit false
set_option autoImplicit false

namespace Stencil

/-! ## Directives among segments -/

/-- **The directive that names an asset** of some kind. -/
def Directive.refer : AssetKind → String → Directive
  | .script => .script
  | .style => .style

namespace Segment

/-- **The directives among segments,** the first of which stands behind a tag or a literal. -/
def directives (before : Option Tag) : List Segment → List Directive
  | [] => []
  | s :: rest => (Pass.directive? before s).toList ++ directives s.tag rest

/-- The directives among segments are those of their pieces. -/
lemma directives_locate (d : Char) (before : Option Tag) (offset : Nat) (pieces : List Piece) :
    directives before (locate d offset pieces) = Piece.directives before pieces := by
  induction pieces generalizing before offset with
  | nil => rfl
  | cons piece rest ih =>
    rw [Pass.locate_cons, directives, ih]
    cases piece with
    | tag t => simp [Pass.directive?, Piece.tag?, Piece.directives]
    | literal s => simp [Pass.directive?, Piece.tag?, Piece.directives, Piece.text, apply_ite]

/-- One more segment may be one more directive. -/
lemma directives_concat (front : List Segment) (s : Segment) :
    directives none (front ++ [s]) =
      directives none front ++ (Pass.directive? (previous front) s).toList := by
  have hbehind (before : Option Tag) : directives before (front ++ [s]) =
      directives before front ++
        (Pass.directive? (front.getLast?.elim before tag) s).toList := by
    induction front generalizing before with
    | nil => simp [directives]
    | cons first rest ih =>
      rw [List.cons_append, directives, directives, ih, List.append_assoc]
      cases hlast : rest.getLast? <;> simp [List.getLast?_cons, hlast]
  rw [hbehind, previous]
  cases front.getLast? <;> rfl

end Segment

namespace Template

variable {w : Workspace} {t : Template} {c : Compiled} {front behind : List Segment} {s : Segment}
  {p q : Pass} {d : Directive}

/-! ## Gathering -/

/-- **What the pass over a template has gathered** behind some segments. -/
inductive Gathers (w : Workspace) (t : Template) : List Segment → Pass → Prop
  /-- The pass before the first segment. -/
  | start : Gathers w t [] t.start
  /-- One more segment, behind those before it. -/
  | segment {front : List Segment} {s : Segment} {p q : Pass} :
    Gathers w t front p →
    p.segment t.options (t.follow w (t.nested w)) (Segment.previous front) s = .ok q →
    Gathers w t (front ++ [s]) q

namespace Gathers

/-- Behind no segment the pass is where it starts. -/
lemma eq_start (h : Gathers w t [] p) : p = t.start := by
  generalize hsegments : [] = segments at h
  cases h with
  | start => rfl
  | segment => simp at hsegments

/-- The pass behind one more segment has come from the pass before it. -/
lemma exists_of_concat (h : Gathers w t (front ++ [s]) q) :
    ∃ p, Gathers w t front p ∧
      p.segment t.options (t.follow w (t.nested w)) (Segment.previous front) s = .ok q := by
  generalize hsegments : front ++ [s] = segments at h
  cases h with
  | start => simp at hsegments
  | segment hp hq =>
    obtain ⟨rfl, hs⟩ := List.append_inj' hsegments rfl
    cases hs
    exact ⟨_, hp, hq⟩

/-- A pass over segments goes on from what it has gathered. -/
lemma of_segments (hp : Gathers w t front p)
    (h : p.segments t (t.follow w (t.nested w)) (Segment.previous front) behind = .ok q) :
    Gathers w t (front ++ behind) q := by
  induction behind generalizing front p with
  | nil =>
    cases h
    rwa [List.append_nil]
  | cons s rest ih =>
    rw [Pass.segments] at h
    split at h
    · cases h
    · cases hr : p.segment t.options (t.follow w (t.nested w)) (Segment.previous front) s with
      | error e => rw [hr] at h; cases h
      | ok r =>
        rw [hr] at h
        rw [List.append_cons]
        exact ih (hp.segment hr) (by rwa [Segment.previous_concat])

/-- The pass behind some segments is settled by them. -/
lemma unique (hp : Gathers w t front p) (hq : Gathers w t front q) : p = q := by
  induction hp generalizing q with
  | start => exact hq.eq_start.symm
  | segment _ hsegment ih =>
    obtain ⟨r, hr, hsegment'⟩ := hq.exists_of_concat
    rw [← ih hr, hsegment] at hsegment'
    exact Except.ok.inj hsegment'

/-- What has been gathered behind some segments was gathered behind those before them first. -/
lemma exists_of_append (h : Gathers w t (front ++ behind) q) : ∃ p, Gathers w t front p := by
  induction behind using List.reverseRecOn generalizing q with
  | nil => exact ⟨q, by rwa [List.append_nil] at h⟩
  | append_singleton behind s ih =>
    rw [← List.append_assoc] at h
    obtain ⟨p, hp, -⟩ := h.exists_of_concat
    exact ih hp

/-- The directives that a pass comes to are segments behind what it has gathered by then. -/
lemma exists_of_comesTo {d : Directive} (hp : Gathers w t front p)
    (h : Pass.ComesTo t (t.follow w (t.nested w)) (Segment.previous front) p behind d q) :
    ∃ passed s rest, behind = passed ++ s :: rest ∧ Gathers w t (front ++ passed) q ∧
      Pass.directive? (Segment.previous (front ++ passed)) s = some d := by
  generalize hbefore : Segment.previous front = before at h
  induction h generalizing front with
  | @here _ p s rest d hd =>
    exact ⟨[], s, rest, rfl, by rwa [List.append_nil], by rwa [List.append_nil, hbefore]⟩
  | @later _ p q r s rest d _ hsegment _ ih =>
    obtain ⟨passed, s', rest', rfl, hgathers, hd⟩ :=
      ih (hp.segment (hbefore ▸ hsegment)) (Segment.previous_concat front s)
    rw [List.append_assoc] at hgathers hd
    exact ⟨s :: passed, s', rest', rfl, hgathers, hd⟩

/-- **One more segment is read, or followed as a directive,** and its lines are passed.

**Proof sketch.** The last step of a pass, told apart by whether the segment is a directive. -/
theorem exists_segment (h : Gathers w t (front ++ [s]) q) :
    ∃ p, Gathers w t front p ∧
      ((Pass.directive? (Segment.previous front) s = none ∧ q = p.scan t.options s) ∨
        ∃ d r, Pass.directive? (Segment.previous front) s = some d ∧
          t.follow w (t.nested w) d p = .ok r ∧ q = r.advance t.options s) := by
  obtain ⟨p, hp, hq⟩ := h.exists_of_concat
  refine ⟨p, hp, ?_⟩
  unfold Pass.segment at hq
  cases hd : Pass.directive? (Segment.previous front) s with
  | none =>
    rw [hd] at hq
    cases hq
    exact .inl ⟨rfl, rfl⟩
  | some d =>
    simp only [hd] at hq
    cases hr : t.follow w (t.nested w) d p with
    | error e => rw [hr] at hq; cases hq
    | ok r =>
      rw [hr] at hq
      cases hq
      exact .inr ⟨d, r, rfl, hr, rfl⟩

end Gathers

/-- **A template that compiles** has gathered what it is compiled to behind all of its segments. -/
theorem gathers_of_expand (h : expand w t = .ok c) :
    ∃ p, Gathers w t t.segments p ∧ c = t.compiled p := by
  rw [expand_eq, pass, Segment.splitChecked] at h
  split_ifs at h
  · change (t.start.segments t (t.follow w (t.nested w)) none t.segments).map t.compiled =
      .ok c at h
    cases hp : t.start.segments t (t.follow w (t.nested w)) none t.segments with
    | error e => rw [hp] at h; cases h
    | ok p =>
      rw [hp] at h
      cases h
      exact ⟨p, .of_segments .start hp, rfl⟩
  · cases h

/-- A template of which the outcome is known, in part, compiles. -/
lemma exists_of_map_expand {α : Type} {f : Compiled → α} {y : α}
    (h : (expand w t).toOption.map f = some y) : ∃ c, expand w t = .ok c ∧ f c = y := by
  cases hc : expand w t with
  | error e =>
    rw [hc] at h
    cases h
  | ok c =>
    rw [hc] at h
    exact ⟨c, rfl, Option.some.inj h⟩

/-! ## Following directives -/

/-- **What a directive adds to a pass.** -/
inductive Follows (w : Workspace) (t : Template) (p : Pass) : Directive → Pass → Prop
  /-- An include takes over a template, possibly between remarks. -/
  | included {d : Directive} {path : Path} {component : Option Component} {inner : Compiled}
      (params : List String) (isolated : Bool) (opening closing : List String) :
    t.target? w d = some (path, component) → t.nested w path component = .ok inner →
    Follows w t p d ((((p.emit (opening.map .append)).splice params isolated path inner).emit
      (closing.map .append)).depend path)
  /-- A name without a component is passed over. -/
  | skipped {name : String} (params : Option String) {e : CompileError} :
    w.lookup name = .error e → e.isRecoverable = true →
    Follows w t p (.includeComponent name params) p
  /-- An asset is referred to. -/
  | refer (kind : AssetKind) (reference : String) :
    Follows w t p (.refer kind reference) (referTo kind reference p)
  /-- A block begins. -/
  | beginCapture (params : String) :
    Follows w t p (.beginCapture params) (p.emit [.beginCapture params])
  /-- A block ends. -/
  | endCapture : Follows w t p .endCapture (p.emit [.endCapture])

/-- **What following a directive comes to.**

**Proof sketch.** The cases of the directive and of what it looks up; every way in which following
it succeeds is one of the constructors. -/
theorem Follows.of_follow (h : t.follow w (t.nested w) d p = .ok q) : Follows w t p d q := by
  cases d with
  | includeFile reference params =>
    simp only [follow, includeFile] at h
    cases hcurrent : t.options.sourcePath with
    | none => rw [hcurrent] at h; cases h
    | some current =>
      simp only [hcurrent] at h
      cases hinner : t.nested w (w.library.resolve reference current) none with
      | error e => rw [hinner] at h; cases h
      | ok inner =>
        rw [hinner] at h
        cases h
        have htarget : t.target? w (.includeFile reference params) =
            some (w.library.resolve reference current, none) := by
          rw [target?, hcurrent]
          rfl
        simpa [Pass.emit] using
          Follows.included (p := p) params.toList params.isSome [] [] htarget hinner
  | includeComponent name params =>
    simp only [follow, includeComponent] at h
    cases hlookup : w.lookup name with
    | error e =>
      simp only [hlookup] at h
      split at h
      · next hrecoverable =>
        cases h
        exact .skipped params hlookup hrecoverable
      · cases h
    | ok component =>
      simp only [hlookup] at h
      cases hinner : t.nested w component.mainTemplate (some component) with
      | error e => rw [hinner] at h; cases h
      | ok inner =>
        rw [hinner] at h
        cases h
        exact .included _ _ [_] [_] (by rw [target?, hlookup]) hinner
  | script reference =>
    cases h
    exact .refer .script reference
  | style reference =>
    cases h
    exact .refer .style reference
  | beginCapture params =>
    cases h
    exact .beginCapture params
  | endCapture =>
    cases h
    exact .endCapture

/-- **What is so of every compiled template** if it is so of those that it includes. -/
theorem expand_induction {motive : Template → Compiled → Prop}
    (step : ∀ t c, (∀ path component text inner, w.library.read path = .ok text →
        expand w (t.including path component text) = .ok inner →
        t.chain.length < w.depth → motive (t.including path component text) inner) →
      expand w t = .ok c → motive t c) {t : Template} {c : Compiled} (h : expand w t = .ok c) :
    motive t c := by
  induction hn : w.depth - t.chain.length using Nat.strong_induction_on generalizing t c with
  | _ n ih =>
    refine step t c (fun path component text inner _ hinner hdepth => ?_) h
    exact ih _ (hn ▸ room_including hdepth _ component text) hinner rfl

end Template

end Stencil
