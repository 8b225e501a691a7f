import Stencil.Proofs.Script.Frames

/-!
# What is known of frames beforehand

Some of what the frames of a body bind can be told from its code: what was declared before, in the
body itself or around the place that is looked at.  An outline holds these names for each frame that
is open there.

## Main definitions

* `Stencil.Script.Outline` — the frames that are open within a body, with the names that are surely
  bound in each.
* `Stencil.Script.Outline.add`, `addVar`, `enter` — outlines after declarations, and in a frame of
  their own.
* `Stencil.Script.Outline.Fits` — frames that an outline tells the truth about.
* `Stencil.Script.Scope.Above` — a scope with frames that fit an outline on top of another scope.

## Main results

* `Stencil.Script.Scope.Above.assign`, `declare`, `declareVar`, `push`, `truncate` — what a scope
  stands on is left as it is by assignments to names of the outline, by declarations, and by
  entering and leaving frames.

## Design

A name is listed for a frame if it is bound there or further out, as far as this is seen from the
frame and belongs to the body.  So a name of the innermost frame is one that an assignment finds
within the body.
-/

set_option relaxedAutoImplicit false
set_option autoImplicit false

namespace Stencil.Script

/-! ## Outlines -/

/-- How a frame is opened. -/
inductive Opening where
  /-- As that of a block. -/
  | block
  /-- As one that receives `var` declarations. -/
  | function
  /-- As one that receives `var` declarations and hides the frames around it. -/
  | isolated
  deriving DecidableEq

/-- The frame that is opened. -/
def Opening.frame (vars : Fields Value) : Opening → Frame
  | block => { vars }
  | function => { vars, isFunction := true }
  | isolated => { vars, isFunction := true, isolated := true }

/-- One frame in an outline. -/
structure Layer where
  /-- How the frame was opened. -/
  opening : Opening
  /-- Names that are bound in the frame, or in one further out that is seen from it. -/
  names : List String

/-- **An outline of frames,** innermost first. -/
abbrev Outline := List Layer

namespace Outline

/-- The names that are surely bound where code runs. -/
def own : Outline → List String
  | [] => []
  | layer :: _ => layer.names

/-- **An outline after a declaration** in the innermost frame. -/
def add (name : String) : Outline → Outline
  | [] => []
  | layer :: outer => { layer with names := name :: layer.names } :: outer

/-- **An outline after a declaration** in the innermost function frame.  It is seen from the block
frames within. -/
def addVar (name : String) : Outline → Outline
  | [] => []
  | layer :: outer =>
    { layer with names := name :: layer.names } ::
      if layer.opening = .block then addVar name outer else outer

/-- **An outline in a frame of its own,** which binds some names to begin with. -/
def enter (o : Outline) (opening : Opening) (names : List String) : Outline :=
  ⟨opening, if opening = .isolated then names else names ++ o.own⟩ :: o

/-- Whether a name may be seen around the body that an outline is of.  Behind an isolated frame,
the globals alone are. -/
def sees (o : Outline) (u : Scope) (name : String) : Bool :=
  if o.any (·.opening = .isolated) then Fields.contains name u.globals else u.contains name

/-! ### Outlines that know more -/

/-- Outlines of the same frames, of which the second knows what the first does. -/
def Extends (o o' : Outline) : Prop :=
  List.Forall₂ (fun layer layer' => layer'.opening = layer.opening ∧ layer.names ⊆ layer'.names)
    o o'

namespace Extends

variable {o o' o'' : Outline}

/-- An outline takes nothing from itself. -/
@[refl]
lemma refl (o : Outline) : o.Extends o :=
  List.forall₂_same.2 fun _ _ => ⟨rfl, List.Subset.refl _⟩

/-- Outlines grow one after the other. -/
lemma trans (h : o.Extends o') (h' : o'.Extends o'') : o.Extends o'' := by
  induction h generalizing o'' with
  | nil => exact h'
  | cons hlayer _ ih =>
    cases h' with
    | cons hlayer' h' =>
      exact .cons ⟨hlayer'.1.trans hlayer.1, fun _ hname => hlayer'.2 (hlayer.2 hname)⟩ (ih h')

/-- A frame of its own is left again. -/
lemma tail {opening : Opening} {names : List String} (h : (o.enter opening names).Extends o') :
    o.Extends o'.tail := by
  cases h with
  | cons _ h => exact h

/-- A name that is declared in the innermost frame is added to the outline. -/
lemma add (o : Outline) (name : String) : o.Extends (o.add name) := by
  cases o with
  | nil => exact refl []
  | cons layer outer => exact .cons ⟨rfl, List.subset_cons_self _ _⟩ (refl outer)

/-- So is one that is declared in the innermost function frame. -/
lemma addVar (o : Outline) (name : String) : o.Extends (o.addVar name) := by
  induction o with
  | nil => exact refl []
  | cons layer outer ih =>
    refine .cons ⟨rfl, List.subset_cons_self _ _⟩ ?_
    split
    · exact ih
    · exact refl outer

/-- A `var` declaration binds a name at least where any other does. -/
lemma add_addVar (o : Outline) (name : String) : (o.add name).Extends (o.addVar name) := by
  cases o with
  | nil => exact refl []
  | cons layer outer =>
    refine .cons ⟨rfl, List.Subset.refl _⟩ ?_
    split
    · exact addVar outer name
    · exact refl outer

end Extends

end Outline

/-! ### Frames that fit -/

/-- A frame that fits its place in an outline, given the frames further out. -/
structure Layer.Fits (layer : Layer) (f : Frame) (outer : List Frame) : Prop where
  /-- The frame was opened in this way. -/
  frame_eq : f = layer.opening.frame f.vars
  /-- The names are bound. -/
  bound : ∀ ⦃name⦄, name ∈ layer.names → (Scope.lookup? name (f :: outer)).isSome

/-- **Frames that fit an outline.**  The outermost is one that receives `var` declarations. -/
inductive Outline.Fits : Outline → List Frame → Prop
  /-- The frame of a body. -/
  | body {layer : Layer} {f : Frame} :
    layer.Fits f [] → layer.opening ≠ .block → Fits [layer] [f]
  /-- A frame within. -/
  | frame {layer : Layer} {f : Frame} {o : Outline} {outer : List Frame} :
    layer.Fits f outer → Fits o outer → Fits (layer :: o) (f :: outer)

namespace Layer.Fits

variable {layer : Layer} {f g : Frame} {outer outer' : List Frame}

/-- A frame that is opened with some bindings. -/
lemma opened (opening : Opening) {vars : Fields Value} {names : List String}
    (hnames : ∀ name ∈ names, Fields.contains name vars = true) (outer : List Frame) :
    (⟨opening, names⟩ : Layer).Fits (opening.frame vars) outer where
  frame_eq := by cases opening <;> rfl
  bound name hname := Scope.isSome_lookup?_bound (by
    rw [show (opening.frame vars).vars = vars by cases opening <;> rfl]
    exact hnames name hname)

/-- Whether `var` declarations are bound in a frame. -/
lemma isFunction_eq (h : layer.Fits f outer) : f.isFunction = decide (layer.opening ≠ .block) := by
  rw [h.frame_eq]
  cases layer.opening <;> rfl

/-- Whether a frame hides those around it. -/
lemma isolated_eq (h : layer.Fits f outer) : f.isolated = decide (layer.opening = .isolated) := by
  rw [h.frame_eq]
  cases layer.opening <;> rfl

/-- Frames that bind more fit. -/
lemma grown (h : layer.Fits f outer) (hfg : f.Grows g)
    (houter : List.Forall₂ Frame.Grows outer outer') : layer.Fits g outer' where
  frame_eq := by
    have hfunction := hfg.isFunction_eq
    have hisolated := hfg.isolated_eq
    obtain ⟨vars, isFunction, isolated⟩ := g
    rw [h.frame_eq] at hfunction hisolated
    dsimp only at hfunction hisolated
    subst hfunction hisolated
    cases layer.opening <;> rfl
  bound name hname := Scope.isSome_lookup?_of_grows (.cons hfg houter) (h.bound hname)

/-- One name more is bound. -/
lemma cons {name : String} (h : layer.Fits f outer)
    (hname : (Scope.lookup? name (f :: outer)).isSome) :
    ({ layer with names := name :: layer.names } : Layer).Fits f outer where
  frame_eq := h.frame_eq
  bound other hother := by
    rcases List.mem_cons.1 hother with rfl | hother
    · exact hname
    · exact h.bound hother

/-- A name that is bound in the frame itself. -/
lemma insert (h : layer.Fits f outer) (name : String) (value : Value) :
    ({ layer with names := name :: layer.names } : Layer).Fits
      { f with vars := f.vars.insert name value } outer :=
  (h.grown (f.grows_insert name value) (Frame.grows_refl outer)).cons
    (by simp [Scope.lookup?])

end Layer.Fits

namespace Outline.Fits

variable {o o' : Outline} {above after : List Frame} {name : String}

/-- The names of the innermost frame are bound. -/
lemma isSome_lookup? (h : o.Fits above) (hname : name ∈ o.own) :
    (Scope.lookup? name above).isSome := by
  cases h with
  | body hlayer _ => exact hlayer.bound hname
  | frame hlayer _ => exact hlayer.bound hname

/-- There are as many frames as the outline has. -/
lemma length_eq (h : o.Fits above) : above.length = o.length := by
  induction h with
  | body _ _ => rfl
  | frame _ _ ih => rw [List.length_cons, List.length_cons, ih]

/-- Some frame is isolated if one is in the outline. -/
lemma any_isolated (h : o.Fits above) :
    above.any (·.isolated) = o.any (·.opening = .isolated) := by
  induction h with
  | body hlayer _ => rw [List.any_cons, List.any_cons, hlayer.isolated_eq]; rfl
  | frame hlayer _ ih => rw [List.any_cons, List.any_cons, hlayer.isolated_eq, ih]

/-- Frames that bind more fit. -/
lemma grown (h : o.Fits above) (hgrows : List.Forall₂ Frame.Grows above after) :
    o.Fits after := by
  induction h generalizing after with
  | body hlayer hbody =>
    cases hgrows with
    | cons hf houter =>
      cases houter
      exact .body (hlayer.grown hf .nil) hbody
  | frame hlayer _ ih =>
    cases hgrows with
    | cons hf houter => exact .frame (hlayer.grown hf houter) (ih houter)

/-- Less may be known of the frames. -/
lemma of_extends (h : o'.Fits above) (hext : o.Extends o') : o.Fits above := by
  induction h generalizing o with
  | body hlayer hbody =>
    cases hext with
    | cons hnames hrest =>
      cases hrest
      obtain ⟨hopening, hnames⟩ := hnames
      refine .body ⟨?_, fun name hname => hlayer.bound (hnames hname)⟩ ?_
      · rw [← hopening]
        exact hlayer.frame_eq
      · rwa [← hopening]
  | frame hlayer _ ih =>
    cases hext with
    | cons hnames hrest =>
      obtain ⟨hopening, hnames⟩ := hnames
      refine .frame ⟨?_, fun name hname => hlayer.bound (hnames hname)⟩ (ih hrest)
      rw [← hopening]
      exact hlayer.frame_eq

/-- A name that is seen may be added. -/
lemma add (h : o.Fits above) (hname : (Scope.lookup? name above).isSome) :
    (o.add name).Fits above := by
  cases h with
  | body hlayer hbody => exact .body (hlayer.cons hname) hbody
  | frame hlayer houter => exact .frame (hlayer.cons hname) houter

/-- A name of the innermost frame is assigned within. -/
lemma replaceIn? (h : o.Fits above) (hname : name ∈ o.own) (value : Value) :
    ∃ after, Scope.replaceIn? name value above = some after ∧ o.Fits after := by
  have hsome : (Scope.replaceIn? name value above).isSome := by
    rw [Scope.isSome_replaceIn?]
    exact h.isSome_lookup? hname
  obtain ⟨after, hafter⟩ := Option.isSome_iff_exists.1 hsome
  exact ⟨after, hafter, h.grown (Scope.grows_replaceIn? hafter)⟩

/-- A `var` declaration is made within.

**Proof sketch.** Induction on the frames.  A function frame takes it.  A block frame passes it on,
and then sees the name further out, since it hides nothing. -/
lemma declareVarIn? (h : o.Fits above) (name : String) (value : Value) :
    ∃ after, Scope.declareVarIn? name value above = some after ∧ (o.addVar name).Fits after ∧
      name ∈ (o.addVar name).own := by
  induction h with
  | @body layer f hlayer hbody =>
    refine ⟨[{ f with vars := f.vars.insert name value }], ?_, ?_, List.mem_cons_self⟩
    · rw [Scope.declareVarIn?, if_pos (by simpa [hlayer.isFunction_eq] using hbody)]
    · rw [addVar, if_neg hbody]
      exact .body (hlayer.insert name value) hbody
  | @frame layer f o outer hlayer houter ih =>
    by_cases hblock : layer.opening = .block
    · obtain ⟨after, hafter, hfits, hown⟩ := ih
      have hf : f.IsBlock := by
        rw [hlayer.frame_eq, hblock]
        exact ⟨rfl, rfl⟩
      refine ⟨f :: after, ?_, ?_, List.mem_cons_self⟩
      · rw [Scope.declareVarIn?_passed hf, hafter]
        rfl
      · rw [addVar, if_pos hblock]
        have hgrown : layer.Fits f after :=
          hlayer.grown (.refl f) (Scope.grows_declareVarIn? hafter)
        exact .frame (hgrown.cons (Scope.isSome_lookup?_passed hf.2 (hfits.isSome_lookup? hown)))
          hfits
    · refine ⟨{ f with vars := f.vars.insert name value } :: outer, ?_, ?_, List.mem_cons_self⟩
      · rw [Scope.declareVarIn?, if_pos (by simpa [hlayer.isFunction_eq] using hblock)]
      · rw [addVar, if_neg hblock]
        exact .frame (hlayer.insert name value) houter

end Outline.Fits

/-! ## Scopes on top of others -/

/-- **A scope with frames that fit an outline on top of another scope.** -/
def Scope.Above (u : Scope) (o : Outline) (s : Scope) : Prop :=
  ∃ above, o.Fits above ∧ s = { u with frames := above ++ u.frames }

namespace Scope.Above

variable {u s t : Scope} {o o' : Outline}

/-- Less may be known of the frames. -/
lemma of_extends (h : u.Above o' s) (hext : o.Extends o') : u.Above o s := by
  obtain ⟨above, hfits, rfl⟩ := h
  exact ⟨above, hfits.of_extends hext, rfl⟩

/-- The frame of a body on top of a scope. -/
lemma body (u : Scope) {opening : Opening} (hopening : opening ≠ .block) {names : List String}
    {vars : Fields Value} (hnames : ∀ name ∈ names, Fields.contains name vars = true) :
    u.Above [⟨opening, names⟩] (u.push (opening.frame vars)) :=
  ⟨[opening.frame vars], .body (.opened opening hnames []) hopening, rfl⟩

/-- Without the frames on top, a scope is what they stand on. -/
lemma truncate_eq (h : u.Above o s) : s.truncate u.depth = u := by
  obtain ⟨above, -, rfl⟩ := h
  exact truncate_append rfl

/-- **An assignment to a name of the outline** leaves what is below. -/
lemma assign {name : String} (h : u.Above o s) (hname : name ∈ o.own) (value : Value) :
    u.Above o (s.assign name value) := by
  obtain ⟨above, hfits, rfl⟩ := h
  obtain ⟨after, hafter, hfits⟩ := hfits.replaceIn? hname value
  refine ⟨after, hfits, ?_⟩
  rw [Scope.assign, replaceIn?_append hafter]

/-- **A declaration** leaves what is below. -/
lemma declare (h : u.Above o s) (name : String) (value : Value) :
    u.Above (o.add name) (s.declare name value) := by
  obtain ⟨above, hfits, rfl⟩ := h
  cases hfits with
  | body hlayer hbody => exact ⟨_, .body (hlayer.insert name value) hbody, rfl⟩
  | frame hlayer houter => exact ⟨_, .frame (hlayer.insert name value) houter, rfl⟩

/-- **A `var` declaration** leaves what is below. -/
lemma declareVar (h : u.Above o s) (name : String) (value : Value) :
    u.Above (o.addVar name) (s.declareVar name value) := by
  obtain ⟨above, hfits, rfl⟩ := h
  obtain ⟨after, hafter, hfits, -⟩ := hfits.declareVarIn? name value
  refine ⟨after, hfits, ?_⟩
  rw [Scope.declareVar, declareVarIn?_append hafter]

/-- A name that is seen, though not around the body, is bound within. -/
lemma add_of_contains {name : String} (h : u.Above o s) (hsees : o.sees u name = false)
    (hname : s.contains name = true) : u.Above (o.add name) s := by
  obtain ⟨above, hfits, rfl⟩ := h
  refine ⟨above, hfits.add ?_, rfl⟩
  by_contra hnone
  have hlookup : lookup? name above = none := Option.not_isSome_iff_eq_none.1 hnone
  rw [contains, get?, lookup?_append, hlookup, hfits.any_isolated] at hname
  rw [Outline.sees] at hsees
  split at hsees
  · next hisolated =>
    rw [if_pos hisolated] at hname
    exact absurd hname (by simpa [Fields.contains] using hsees)
  · next hisolated =>
    rw [if_neg hisolated] at hname
    exact absurd hname (by simpa [contains, get?] using hsees)

/-- **One more frame** on top. -/
lemma push (h : u.Above o s) (opening : Opening) {names : List String} {vars : Fields Value}
    (hnames : ∀ name ∈ names, Fields.contains name vars = true) :
    u.Above (o.enter opening names) (s.push (opening.frame vars)) := by
  obtain ⟨above, hfits, rfl⟩ := h
  have hopened := Layer.Fits.opened opening hnames above
  refine ⟨opening.frame vars :: above, .frame ⟨hopened.frame_eq, fun name hname => ?_⟩ hfits, rfl⟩
  dsimp only at hname
  split at hname
  · exact hopened.bound hname
  · next hisolated =>
    rcases List.mem_append.1 hname with hname | hown
    · exact hopened.bound hname
    · exact isSome_lookup?_passed (by simpa [hopened.isolated_eq] using hisolated)
        (hfits.isSome_lookup? hown)

/-- **Without it,** scopes stand on what they did. -/
lemma truncate {opening : Opening} {names : List String} (h : u.Above o s)
    (h' : u.Above o' t) (hext : (o.enter opening names).Extends o') :
    u.Above o'.tail (t.truncate s.depth) := by
  obtain ⟨above, hfits, rfl⟩ := h
  obtain ⟨after, hfits', rfl⟩ := h'
  have hlen : o'.length = o.length + 1 := hext.length_eq.symm
  cases hfits' with
  | body _ _ =>
    have hnil : o = [] := by simpa using hlen
    subst hnil
    cases hfits
  | @frame layer f o' outer hlayer houter =>
    refine ⟨outer, houter, ?_⟩
    have hdepth : depth { u with frames := above ++ u.frames } = (outer ++ u.frames).length := by
      have houter_length := houter.length_eq
      have habove_length := hfits.length_eq
      simp only [depth, List.length_append, List.length_cons] at hlen ⊢
      omega
    rw [hdepth]
    exact truncate_append (show _ = [f] ++ (outer ++ u.frames) from rfl)

end Scope.Above

end Stencil.Script
