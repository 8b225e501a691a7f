import Stencil.Proofs.Template.Gathering

/-!
# Dependencies and assets along includes

Beside its program, a compiled template has a list of paths that it depends on, and lists of the
assets that it refers to.  A pass puts these together on its way.  What they come to is said by the
directives of the template alone: each contributes to every list, an include what the template that
it includes was compiled to.

## Main definitions

* `Stencil.Contribution` — what one directive contributes.
* `Stencil.Template.Contributes` — the contribution of each kind of directive, behind others.
* `Stencil.Template.images` — the images that a template refers to itself.

## Main results

* `Stencil.Collector.scanImages_eq` — looking for images records each of them once.
* `Stencil.Template.exists_contribution_of_follows` — following a directive adds its contribution.
* `Stencil.Template.exists_contributions` — the lists of a compiled template are the contributions
  of its directives, in their order.

## Design

A script that is named again contributes a dependency, but no asset, so a contribution depends on
the directives passed before.  It depends on nothing else of the pass: neither the assets of an
included template nor what it has named change what is recorded behind it.
-/

set_option relaxedAutoImplicit false
set_option autoImplicit false

namespace Stencil

/-- Assets of one kind. -/
def Assets.ofKind : AssetKind → List Asset → Assets
  | .script, scripts => { scripts }
  | .style, styles => { styles }

/-! ## Images -/

namespace Collector

variable {c : Collector}

/-- Whether an image is recorded, unless it has been recorded before. -/
def isRecorded (name : String) : Bool := !name.isEmpty && !Path.isOnline name

/-- An image is recorded once. -/
lemma recordImage_eq (c : Collector) (name : String) :
    c.recordImage name =
      if isRecorded name && !c.seenImages.contains name then
        { c with
          seenImages := name :: c.seenImages
          assets := { c.assets with images := c.assets.images ++ [c.describe false name] } }
      else c := by
  unfold recordImage isRecorded
  cases name.isEmpty <;> cases Path.isOnline name <;> cases c.seenImages.contains name <;> rfl

/-- The names without repetition, with one more behind them. -/
lemma eraseDups_concat (names : List String) (name : String) :
    (names ++ [name]).eraseDups =
      if name ∈ names then names.eraseDups else names.eraseDups ++ [name] := by
  rw [List.eraseDups_append]
  split_ifs with h <;> simp [List.removeAll, List.eraseDups_cons, h]

/-- Names that are new: each once, without those seen before. -/
def newNames (seen names : List String) : List String :=
  names.eraseDups.filter fun name => !seen.contains name

/-- A name is new unless it was seen before. -/
lemma mem_newNames {seen names : List String} {name : String} :
    name ∈ newNames seen names ↔ name ∈ names ∧ name ∉ seen := by
  simp [newNames]

/-- The new names, with one more name behind them. -/
lemma newNames_concat (seen names : List String) (name : String) :
    newNames seen (names ++ [name]) =
      if name ∈ names ∨ name ∈ seen then newNames seen names
      else newNames seen names ++ [name] := by
  rw [newNames, newNames, eraseDups_concat]
  by_cases hnames : name ∈ names
  · simp [hnames]
  · by_cases hseen : name ∈ seen <;> simp [hnames, hseen]

/-- **Looking for images** records each new one of those found once, in their order, and nothing
else.

**Proof sketch.** Induction on the names found, from the last one.  A name is recorded if it has not
been seen, neither before the scan nor among the names in front of it. -/
theorem scanImages_eq (c : Collector) (text : String) :
    let names := newNames c.seenImages ((Markup.imageReferences text.toList).filter isRecorded)
    c.scanImages text =
      { c with
        seenImages := names.reverse ++ c.seenImages
        assets := { c.assets with
          images := c.assets.images ++ names.map (c.describe false) } } := by
  intro names
  unfold scanImages
  subst names
  induction Markup.imageReferences text.toList using List.reverseRecOn with
  | nil => simp [newNames]
  | append_singleton names name ih =>
    rw [List.foldl_concat, ih, recordImage_eq, List.filter_append]
    cases hrecorded : isRecorded name with
    | false => simp [hrecorded]
    | true =>
      rw [show [name].filter isRecorded = [name] by simp [hrecorded], newNames_concat]
      have hseen : ((newNames c.seenImages (names.filter isRecorded)).reverse ++
          c.seenImages).contains name =
            decide (name ∈ names.filter isRecorded ∨ name ∈ c.seenImages) := by
        rw [Bool.eq_iff_iff, List.contains_iff_mem, List.mem_append, List.mem_reverse,
          mem_newNames, decide_eq_true_iff]
        tauto
      dsimp only
      rw [hseen]
      by_cases hmem : name ∈ names.filter isRecorded ∨ name ∈ c.seenImages
      · rw [decide_eq_true hmem, if_pos hmem]
        rfl
      · rw [decide_eq_false hmem, if_neg hmem]
        simp [describe]

/-! ## References -/

/-- The assets of a kind that a pass has named. -/
def seen (c : Collector) : AssetKind → List String
  | .script => c.seenScripts
  | .style => c.seenStyles

/-- A script or style sheet is recorded where it is first named. -/
lemma reference_spec (c : Collector) (kind : AssetKind) (name : String) :
    let named := (c.reference kind name).1
    named.assets = c.assets.append
        (.ofKind kind (if name ∈ c.seen kind then [] else [c.describe true name])) ∧
      named.describe = c.describe ∧
      ∀ kind' name', name' ∈ named.seen kind' ↔
        name' ∈ c.seen kind' ∨ kind' = kind ∧ name' = name := by
  by_cases hseen : name ∈ c.seen kind
  · cases kind <;> simp_all [reference, Assets.append, Assets.ofKind, seen]
  · refine ⟨?_, ?_, fun kind' name' => ?_⟩
    · cases kind <;> simp_all [reference, Assets.append, Assets.ofKind, seen]
    · cases kind <;> simp only [seen] at hseen <;> simp [reference, hseen] <;> rfl
    · cases kind <;> cases kind' <;> simp_all [reference, seen, or_comm]

end Collector

/-! ## Contributions -/

/-- A directive that names an asset tells its kind and its reference. -/
lemma Directive.refer_inj {kind kind' : AssetKind} {reference reference' : String} :
    refer kind reference = refer kind' reference' ↔ kind = kind' ∧ reference = reference' := by
  cases kind <;> cases kind' <;> simp [refer]

/-- **What a directive contributes** to what its template is compiled to. -/
structure Contribution where
  /-- The paths that the template depends on for it. -/
  dependencies : List Path := []
  /-- The assets that the template has by it. -/
  assets : Assets := {}

namespace Template

variable {w : Workspace} {t : Template} {c : Compiled} {p q : Pass} {d : Directive}
  {front : List Segment}

/-- What a template resolves its references through: its component, or else its path. -/
def collector (t : Template) : Collector :=
  { component := t.component, sourcePath := t.options.sourcePath }

/-- The asset that a directive of a template names. -/
def resource (t : Template) (reference : String) : Asset := t.collector.describe true reference

/-- **The images that a template refers to itself,** each once, in the order in which they are
found.  Empty references and network resources are left out. -/
def images (t : Template) : List Asset :=
  ((Markup.imageReferences t.text.toList).filter Collector.isRecorded).eraseDups.map
    (t.collector.describe false)

/-- **What a directive contributes,** behind the directives passed before it. -/
inductive Contributes (w : Workspace) (t : Template) (passed : List Directive) :
    Directive → Contribution → Prop
  /-- A script or style sheet contributes its path, and itself where it is first named. -/
  | refer (kind : AssetKind) (reference : String) :
    Contributes w t passed (.refer kind reference)
      { dependencies := [(t.resource reference).path]
        assets :=
          .ofKind kind (if .refer kind reference ∈ passed then [] else [t.resource reference]) }
  /-- An include contributes all that the included template is compiled to, and then its path. -/
  | included {d : Directive} {path : Path} {component : Option Component} {text : String}
      {inner : Compiled} :
    t.target? w d = some (path, component) → w.library.read path = .ok text →
    expand w (t.including path component text) = .ok inner →
    Contributes w t passed d
      { dependencies := inner.dependencies ++ [path], assets := inner.assets }
  /-- A name without a component contributes nothing. -/
  | skipped {name : String} (params : Option String) {e : CompileError} :
    w.lookup name = .error e → e.isRecoverable = true →
    Contributes w t passed (.includeComponent name params) {}
  /-- The beginning of a block contributes nothing. -/
  | beginCapture (params : String) : Contributes w t passed (.beginCapture params) {}
  /-- The end of a block contributes nothing. -/
  | endCapture : Contributes w t passed .endCapture {}

/-- A pass that has put together what directives contribute. -/
structure Composes (w : Workspace) (t : Template) (contributions : List (Directive × Contribution))
    (p : Pass) : Prop where
  /-- Each directive contributes behind those before it. -/
  contributed : ∀ ⦃passed d x rest⦄, contributions = passed ++ (d, x) :: rest →
    t.Contributes w (passed.map Prod.fst) d x
  /-- The dependencies are put together. -/
  dependencies : p.dependencies = contributions.flatMap fun x => x.2.dependencies
  /-- The scripts are put together. -/
  scripts : p.collector.assets.scripts = contributions.flatMap fun x => x.2.assets.scripts
  /-- The style sheets are put together. -/
  styles : p.collector.assets.styles = contributions.flatMap fun x => x.2.assets.styles
  /-- The images are put together, behind those of the template. -/
  images : p.collector.assets.images =
    t.images ++ contributions.flatMap fun x => x.2.assets.images
  /-- References are resolved as the template resolves them. -/
  describe : p.collector.describe = t.collector.describe
  /-- The scripts and the style sheets that have been named. -/
  seen : ∀ kind reference, reference ∈ p.collector.seen kind ↔
    .refer kind reference ∈ contributions.map Prod.fst

variable {contributions : List (Directive × Contribution)} {x : Contribution}

/-- The pass before the first segment has found the images of the template. -/
lemma composes_start (w : Workspace) (t : Template) : Composes w t [] t.start := by
  have hstart : t.start.collector = { t.collector with
      seenImages := ((Markup.imageReferences t.text.toList).filter
        Collector.isRecorded).eraseDups.reverse
      assets := { images := t.images } } :=
    (Collector.scanImages_eq t.collector t.text).trans
      (by simp [Collector.newNames, collector, images])
  constructor
  case dependencies => rfl
  case describe => rw [hstart]; rfl
  case seen => intro kind reference; cases kind <;> simp [hstart, collector, Collector.seen]
  all_goals simp [hstart, collector]

namespace Composes

/-- What is put together behind some directives is put together behind one more. -/
lemma contributed_concat (h : Composes w t contributions p)
    (hx : t.Contributes w (contributions.map Prod.fst) d x) :
    ∀ ⦃passed d' x' rest⦄, contributions ++ [(d, x)] = passed ++ (d', x') :: rest →
      t.Contributes w (passed.map Prod.fst) d' x' := by
  intro passed d' x' rest hsplit
  rcases List.eq_nil_or_concat rest with rfl | ⟨rest, last, rfl⟩
  · obtain ⟨rfl, hlast⟩ := List.append_inj' hsplit rfl
    cases hlast
    exact hx
  · rw [List.concat_eq_append, ← List.cons_append, ← List.append_assoc] at hsplit
    exact h.contributed (List.append_inj' hsplit rfl).1

/-- A directive names the asset that the template resolves its reference to. -/
lemma resource (h : Composes w t contributions p) (reference : String) :
    p.collector.describe true reference = t.resource reference := by
  rw [h.describe, Template.resource]

/-- One more contribution is put together with those before it. -/
lemma concat (h : Composes w t contributions p)
    (hx : t.Contributes w (contributions.map Prod.fst) d x)
    (hdependencies : q.dependencies = p.dependencies ++ x.dependencies)
    (hassets : q.collector.assets = p.collector.assets.append x.assets)
    (hdescribe : q.collector.describe = p.collector.describe)
    (hseen : ∀ kind reference, reference ∈ q.collector.seen kind ↔
      reference ∈ p.collector.seen kind ∨ .refer kind reference = d) :
    Composes w t (contributions ++ [(d, x)]) q where
  contributed := h.contributed_concat hx
  dependencies := by simp [hdependencies, h.dependencies]
  scripts := by simp [hassets, Assets.append, h.scripts]
  styles := by simp [hassets, Assets.append, h.styles]
  images := by simp [hassets, Assets.append, h.images]
  describe := hdescribe.trans h.describe
  seen kind reference := by simp [hseen, h.seen]

/-- A directive that contributes nothing leaves all lists as they are. -/
lemma concat_nothing (h : Composes w t contributions p)
    (hx : t.Contributes w (contributions.map Prod.fst) d {})
    (hd : ∀ kind reference, .refer kind reference ≠ d) (hcollector : q.collector = p.collector)
    (hdependencies : q.dependencies = p.dependencies) :
    Composes w t (contributions ++ [(d, ({} : Contribution))]) q := by
  refine h.concat hx ?_ ?_ ?_ fun kind reference => ?_
  · simp [hdependencies]
  · simp [hcollector, Assets.append]
  · rw [hcollector]
  · rw [hcollector]
    exact (or_iff_left (hd kind reference)).symm

end Composes

/-- **Following a directive adds its contribution.**

**Proof sketch.** The cases of the directive.  A template that is included gives its own
dependencies and assets, a reference gives one of each, and what is left gives nothing. -/
theorem exists_contribution_of_follows (h : Composes w t contributions p)
    (hq : t.Follows w p d q) : ∃ x, Composes w t (contributions ++ [(d, x)]) q := by
  cases hq with
  | @included d path component inner params isolated opening closing htarget hnested =>
    obtain ⟨-, -, text, hread, hinner⟩ := exists_of_nested hnested
    have hno (kind : AssetKind) (reference : String) : .refer kind reference ≠ d := by
      rintro rfl
      cases kind <;> cases htarget
    exact ⟨_, h.concat (.included htarget hread hinner) (List.append_assoc ..) rfl rfl
      fun kind reference => (or_iff_left (hno kind reference)).symm⟩
  | skipped params hlookup hrecoverable =>
    exact ⟨_, h.concat_nothing (.skipped params hlookup hrecoverable)
      (fun kind _ => by cases kind <;> simp [Directive.refer]) rfl rfl⟩
  | refer kind reference =>
    obtain ⟨hassets, hdescribe, hseen⟩ := Collector.reference_spec p.collector kind reference
    rw [h.resource] at hassets
    simp only [h.seen kind] at hassets
    refine ⟨_, h.concat (.refer kind reference) ?_ hassets hdescribe fun kind' reference' => ?_⟩
    · rw [← h.resource]
      rfl
    · rw [Directive.refer_inj]
      exact hseen kind' reference'
  | beginCapture params =>
    exact ⟨_, h.concat_nothing (.beginCapture params)
      (fun kind _ => by cases kind <;> simp [Directive.refer]) rfl rfl⟩
  | endCapture =>
    exact ⟨_, h.concat_nothing .endCapture
      (fun kind _ => by cases kind <;> simp [Directive.refer]) rfl rfl⟩

/-- A pass puts together what the directives that it passes contribute.

**Proof sketch.** Induction on the segments.  One that is read adds an instruction alone. -/
theorem Gathers.exists_composes (h : Gathers w t front p) :
    ∃ contributions, contributions.map Prod.fst = Segment.directives none front ∧
      Composes w t contributions p := by
  induction front using List.reverseRecOn generalizing p with
  | nil =>
    cases h.eq_start
    exact ⟨[], rfl, composes_start w t⟩
  | append_singleton front s ih =>
    obtain ⟨r, hr, hsegment⟩ := h.exists_segment
    obtain ⟨contributions, hdirectives, hcomposes⟩ := ih hr
    rw [Segment.directives_concat, ← hdirectives]
    rcases hsegment with ⟨hnone, rfl⟩ | ⟨d, q, hd, hfollow, rfl⟩
    · rw [hnone, Option.toList_none, List.append_nil]
      exact ⟨contributions, rfl, { hcomposes with }⟩
    · obtain ⟨x, hx⟩ := exists_contribution_of_follows hcomposes (.of_follow hfollow)
      exact ⟨contributions ++ [(d, x)], by rw [hd, List.map_append]; rfl, { hx with }⟩

/-- **Dependencies and assets are put together along includes.**  Let a template compile.  Each of
its directives makes a contribution: a script or style sheet its path, and itself where the template
names it first; an include of a template or of a component all that the included template is
compiled to, with its path behind the dependencies; and a name without a component nothing.  The
dependencies, the scripts and the style sheets of the template are these contributions one after
the other, and its images are those in its own text with the contributions behind them.

**Proof sketch.** What is put together behind some segments is followed to the last of them
(`Gathers.exists_composes`). -/
theorem exists_contributions (h : expand w t = .ok c) :
    ∃ contributions : List (Directive × Contribution),
      contributions.map Prod.fst = Piece.directives none t.pieces ∧
      (∀ passed d x rest, contributions = passed ++ (d, x) :: rest →
        t.Contributes w (passed.map Prod.fst) d x) ∧
      c.dependencies = contributions.flatMap (fun x => x.2.dependencies) ∧
      c.assets.scripts = contributions.flatMap (fun x => x.2.assets.scripts) ∧
      c.assets.styles = contributions.flatMap (fun x => x.2.assets.styles) ∧
      c.assets.images = t.images ++ contributions.flatMap (fun x => x.2.assets.images) := by
  obtain ⟨p, hp, rfl⟩ := gathers_of_expand h
  obtain ⟨contributions, hdirectives, hcomposes⟩ := hp.exists_composes
  refine ⟨contributions, ?_, hcomposes.contributed, hcomposes.dependencies, hcomposes.scripts,
    hcomposes.styles, hcomposes.images⟩
  rw [hdirectives, segments, Segment.split, Segment.directives_locate, pieces]

/-- A template that names a script, includes a template that names it as well, and then a component
and a name without one. -/
theorem exists_contributions_component :
    let templates := Templates.ofList
      [(⟨"/t/b.ejs"⟩, "<% includeJs j %>"), (⟨"/c/index.ejs"⟩, "<img src=\"i\"><% includeCss k %>")]
    let directory : Component.Directory := { name := "m", root := ⟨"/c"⟩ }
    let registry := Registry.register {} directory.component
    let w : Workspace := { library := templates.library, lookup := registry.lookup }
    let t := Template.ofText { sourcePath := some ⟨"/t/s.ejs"⟩ }
      "<img src=\"i\"><% includeJs j %><% include b %><% includeModule m %><% includeModule n %>"
    ∃ (c : Compiled) (contributions : List (Directive × Contribution)), expand w t = .ok c ∧
      contributions.map Prod.fst = [.script "j", .includeFile "b" none,
        .includeComponent "m" none, .includeComponent "n" none] ∧
      contributions.flatMap (fun x => x.2.dependencies) =
        [⟨"/t/j"⟩, ⟨"/t/j"⟩, ⟨"/t/b.ejs"⟩, ⟨"/c/k"⟩, ⟨"/c/index.ejs"⟩] ∧
      contributions.flatMap (fun x => x.2.assets.scripts) =
        [⟨none, "j", ⟨"/t/j"⟩⟩, ⟨none, "j", ⟨"/t/j"⟩⟩] ∧
      contributions.flatMap (fun x => x.2.assets.styles) = [⟨some "m", "k", ⟨"/c/k"⟩⟩] ∧
      t.images ++ contributions.flatMap (fun x => x.2.assets.images) =
        [⟨none, "i", ⟨"/t/i"⟩⟩, ⟨some "m", "i", ⟨"/c/i"⟩⟩] := by
  intro templates directory registry w t
  obtain ⟨c, hc, hlists⟩ : ∃ c, expand w t = .ok c ∧ (c.dependencies, c.assets) =
      ([⟨"/t/j"⟩, ⟨"/t/j"⟩, ⟨"/t/b.ejs"⟩, ⟨"/c/k"⟩, ⟨"/c/index.ejs"⟩],
        ⟨[⟨none, "j", ⟨"/t/j"⟩⟩, ⟨none, "j", ⟨"/t/j"⟩⟩], [⟨some "m", "k", ⟨"/c/k"⟩⟩],
          [⟨none, "i", ⟨"/t/i"⟩⟩, ⟨some "m", "i", ⟨"/c/i"⟩⟩]⟩) :=
    exists_of_map_expand (by decide +kernel)
  have hdirectives : Piece.directives none t.pieces = [.script "j", .includeFile "b" none,
      .includeComponent "m" none, .includeComponent "n" none] := by
    decide +kernel
  obtain ⟨hdependencies, hassets⟩ := Prod.mk.inj hlists
  obtain ⟨contributions, hfst, -, hdependencies', hscripts, hstyles, himages⟩ :=
    exists_contributions hc
  exact ⟨c, contributions, hc, hfst.trans hdirectives, hdependencies' ▸ hdependencies,
    by rw [← hscripts, hassets], by rw [← hstyles, hassets], by rw [← himages, hassets]⟩

end Template

end Stencil
