import Stencil.Artifact
import Stencil.Proofs.Template.Commenting
import Stencil.Proofs.Template.Metadata

/-!
# Dropped directives

A directive that is dropped leaves a template as if its opener opened a comment.  This is so for a
build tool, which drops all directives, and for compiling, which passes over the components that
cannot be found.

## Main definitions

* `Stencil.Workspace.passesOver` — the directives that compiling passes over.
* `Stencil.Pass.Alike` — passes that have come to the same but for what they have collected.
* `Stencil.Pass.pastComment` — a pass behind a comment.

## Main results

* `Stencil.Pass.segments_commentOut` — a pass that drops directives goes on like one over the text
  in which they are commented out.
* `Stencil.Workspace.compile_commentOut` — dropping directives is commenting them out.

## Design

Between the opener of a dropped directive and its closer two passes are in different modes, so they
are compared behind the closer: the opener, the directive and the closer are passed at once, and
both passes come to `pastComment`.  That the closer is there has been checked at the opener.
-/

set_option relaxedAutoImplicit false
set_option autoImplicit false

namespace Stencil

/-! ## The directives that are dropped -/

/-- Whether a text is a directive, if it stands in a tag that accepts one. -/
def Directive.isWritten (s : String) : Bool := (parse? s).isSome

namespace Workspace

/-- **Whether compiling passes over a directive:** it includes a component that cannot be found. -/
def passesOver (w : Workspace) : Directive → Bool
  | .includeComponent name _ =>
    match w.lookup name with
    | .error e => e.isRecoverable
    | .ok _ => false
  | _ => false

/-- Whether a text is a directive that compiling passes over. -/
def drops (w : Workspace) (s : String) : Bool := (Directive.parse? s).any w.passesOver

end Workspace

/-! ## Outcomes -/

/-- What is made of an outcome is made of what there is, if there is any. -/
lemma toOption_map {ε α β : Type} (x : Except ε α) (f : α → β) :
    (x.map f).toOption = x.toOption.map f := by
  cases x <;> rfl

/-- Outcomes that are related have the same parts. -/
lemma map_eq_map_of_rel {α β γ : Type} {r : α → β → Prop} {f : α → γ} {g : β → γ}
    (hfg : ∀ ⦃a b⦄, r a b → f a = g b) {x : Option α} {y : Option β} (h : Option.Rel r x y) :
    x.map f = y.map g := by
  cases h with
  | none => rfl
  | some h => exact congrArg some (hfg h)

/-! ## Closed tags -/

namespace Piece

variable {drops : String → Bool}

/-- Tags are closed as before when openers are replaced. -/
lemma isClosed_commentOut (pieces : List Piece) :
    isClosed (commentOut drops pieces) = isClosed pieces := by
  have hcloser (t : Tag) (rest : List Piece) : (opener drops t rest).isCloser = t.isCloser := by
    rcases opener_cases drops t rest with heq | ⟨heq, ht⟩
    · rw [heq]
    · rw [heq]
      cases t <;> first | rfl | cases ht
  have hsecond (first : Piece) (rest : List Piece) :
      isClosed (first :: commentOut drops rest) = isClosed (first :: rest) := by
    cases rest with
    | nil => rfl
    | cons second rest =>
      cases second with
      | tag t => exact hcloser t rest
      | literal s => rfl
  cases pieces with
  | nil => rfl
  | cons first rest => cases first <;> exact hsecond _ rest

/-- What follows a closed tag: one piece and a tag that closes. -/
lemma exists_of_isClosed {pieces : List Piece} (h : isClosed pieces = true) :
    ∃ content closer behind, pieces = content :: .tag closer :: behind ∧
      closer.isCloser = true := by
  rcases pieces with _ | ⟨content, _ | ⟨closer, behind⟩⟩
  · cases h
  · cases h
  · cases closer with
    | tag t => exact ⟨content, t, behind, rfl, h⟩
    | literal s => cases h

end Piece

/-! ## Tags that are read -/

namespace Reader

variable {options : Options} {r : Reader} {tag : Tag}

/-- No lines are passed. -/
lemma advance_zero (options : Options) (r : Reader) : r.advance options 0 = (r, []) := rfl

/-- An opener sets the mode and nothing else. -/
lemma scanTag_opener (htag : tag.isOpener = true) :
    r.scanTag options tag = ({ r with mode := Mode.ofTag? tag }, []) := by
  cases tag <;> first | rfl | simp [Tag.isOpener] at htag

/-- A closer sets the mode and what is taken away behind it, except behind an escaped
delimiter. -/
lemma scanTag_closer (htag : tag.isCloser = true) (hmode : r.mode ≠ some .literal) :
    r.scanTag options tag =
      ({ r with mode := none, truncate := tag = .closeTrim || tag = .closeSlurp }, []) := by
  rw [scanTag, if_pos htag, if_neg hmode]

end Reader

/-! ## Passes -/

namespace Pass

variable {d : Char} {drops : String → Bool} {same : Collector → Collector → Prop}
  {t t' : Template} {follow follow' : Directive → Pass → Except CompileError Pass}
  {options : Options} {p q : Pass}

/-- **Passes that have come to the same,** but for what they have collected. -/
structure Alike (same : Collector → Collector → Prop) (p q : Pass) : Prop where
  /-- The instructions are the same. -/
  program : p.program = q.program
  /-- The mode and the line are the same. -/
  reader : p.reader = q.reader
  /-- The dependencies are the same. -/
  dependencies : p.dependencies = q.dependencies
  /-- What has been collected is alike. -/
  collector : same p.collector q.collector

/-- A segment that is no directive is read alike. -/
lemma Alike.scan (h : Alike same p q) (options : Options) (s : Segment) :
    Alike same (p.scan options s) (q.scan options s) where
  program := by simp only [Pass.scan, emit, h.program, h.reader]
  reader := by simp only [Pass.scan, h.reader]
  dependencies := h.dependencies
  collector := h.collector

/-- The lines of a directive are passed alike. -/
lemma Alike.advance (h : Alike same p q) (options : Options) (s : Segment) :
    Alike same (p.advance options s) (q.advance options s) where
  program := by simp only [Pass.advance, emit, h.program, h.reader]
  reader := by simp only [Pass.advance, h.reader]
  dependencies := h.dependencies
  collector := h.collector

/-- **A pass behind a comment** that is closed by a tag. -/
def pastComment (options : Options) (content : Segment) (closer : Tag) (p : Pass) : Pass :=
  let p := p.advance options content
  { p with
    reader :=
      { p.reader with mode := none, truncate := closer = .closeTrim || closer = .closeSlurp } }

/-- A comment is read alike, and only the lines of it count. -/
lemma Alike.pastComment (h : Alike same p q) (options : Options) (content : Segment)
    (closer : Tag) :
    Alike same (p.pastComment options content closer) (q.pastComment options content closer) where
  program := (h.advance options content).program
  reader := by simp only [Pass.pastComment, (h.advance options content).reader]
  dependencies := h.dependencies
  collector := h.collector

/-! ### Segments of a closed tag -/

/-- A tag has no lines. -/
lemma newlines_tag (hd : Delimiter.isValid d = true) (tag : Tag) (offset : Nat) :
    Segment.newlines ⟨String.ofList (tag.text d), offset, some tag⟩ = 0 := by
  rw [Segment.newlines, String.toList_ofList]
  exact List.count_eq_zero.2 (Reader.newline_notMem_text hd tag)

/-- An opening tag sets the mode. -/
lemma scan_opener (hd : Delimiter.isValid d = true) {tag : Tag} (htag : tag.isOpener = true)
    (options : Options) (p : Pass) (offset : Nat) :
    p.scan options ⟨String.ofList (tag.text d), offset, some tag⟩ =
      { p with reader := { p.reader with mode := Mode.ofTag? tag } } := by
  simp only [Pass.scan, Reader.scan, newlines_tag hd, Reader.scanTag_opener htag,
    Reader.advance_zero, emit, List.append_nil]

/-- A closing tag ends the mode, and says what becomes of the white space behind it. -/
lemma scan_closer (hd : Delimiter.isValid d = true) {tag : Tag} (htag : tag.isCloser = true)
    (options : Options) (hmode : p.reader.mode ≠ some .literal) (offset : Nat) :
    p.scan options ⟨String.ofList (tag.text d), offset, some tag⟩ =
      { p with
        reader :=
          { p.reader with mode := none, truncate := tag = .closeTrim || tag = .closeSlurp } } := by
  simp only [Pass.scan, Reader.scan, newlines_tag hd, Reader.scanTag_closer htag hmode,
    Reader.advance_zero, emit, List.append_nil]

/-- What stands in a comment gives its lines. -/
lemma scan_comment (options : Options) (hmode : p.reader.mode = some .comment) (text : String)
    (offset : Nat) :
    p.scan options ⟨text, offset, none⟩ = p.advance options ⟨text, offset, none⟩ := by
  simp only [Pass.scan, Reader.scan, Reader.scanText, hmode]
  rfl

/-! ### Passes over pieces -/

/-- What a pass over pieces comes to, if anything.  Where the pieces stand plays no part. -/
def pieces (options : Options) (follow : Directive → Pass → Except CompileError Pass) :
    Option Tag → Pass → List Piece → Option Pass
  | _, p, [] => some p
  | before, p, piece :: behind =>
    if piece.tag?.any Tag.isOpener && !Piece.isClosed behind then none
    else
      (p.segment options follow before
        ⟨String.ofList (piece.text options.delimiter), 0, piece.tag?⟩).toOption.bind
          fun p => pieces options follow piece.tag? p behind

/-- A pass over segments is one over their pieces. -/
lemma toOption_segments (t : Template) (follow : Directive → Pass → Except CompileError Pass)
    (before : Option Tag) (p : Pass) (offset : Nat) (ps : List Piece) :
    (p.segments t follow before (Segment.locate t.options.delimiter offset ps)).toOption =
      p.pieces t.options follow before ps := by
  induction ps generalizing before p offset with
  | nil => rfl
  | cons piece rest ih =>
    rw [locate_cons, segments, isClosed_locate, pieces]
    split
    · rfl
    · have hplace : p.segment t.options follow before
          ⟨String.ofList (piece.text t.options.delimiter), offset, piece.tag?⟩ =
          p.segment t.options follow before
            ⟨String.ofList (piece.text t.options.delimiter), 0, piece.tag?⟩ := rfl
      rw [hplace]
      cases p.segment t.options follow before _ with
      | error e => rfl
      | ok p => exact ih _ _ _

section Pieces

variable {options : Options} {tag closer : Tag} {s : List Char} {rest : List Piece}
  {before : Option Tag}

/-- A tag is read, if it is closed where it has to be. -/
lemma pieces_tag (hclosed : tag.isOpener = true → Piece.isClosed rest = true) :
    p.pieces options follow before (.tag tag :: rest) =
      (p.scan options ⟨String.ofList (tag.text options.delimiter), 0, some tag⟩).pieces options
        follow (some tag) rest := by
  rw [pieces, if_neg]
  · rfl
  · intro h
    obtain ⟨hopener, hno⟩ := Bool.and_eq_true_iff.1 h
    simp [hclosed hopener] at hno

/-- A tag that is not closed ends the pass. -/
lemma pieces_unclosed (htag : tag.isOpener = true) (hclosed : Piece.isClosed rest = false) :
    p.pieces options follow before (.tag tag :: rest) = none := by
  rw [pieces, if_pos]
  rw [hclosed]
  simpa [Piece.tag?] using htag

/-- A literal is read, or followed as a directive. -/
lemma pieces_literal :
    p.pieces options follow before (.literal s :: rest) =
      (p.segment options follow before ⟨String.ofList s, 0, none⟩).toOption.bind
        fun p => p.pieces options follow none rest := rfl

/-- A closing tag opens nothing, so there is nothing that has to close it. -/
lemma isClosed_of_isCloser (hcloser : closer.isCloser = true) :
    closer.isOpener = true → Piece.isClosed rest = true := by
  intro h
  cases closer <;> simp [Tag.isCloser, Tag.isOpener] at hcloser h

/-- The closer behind a directive or a comment is read alike. -/
lemma pieces_closer (hd : Delimiter.isValid options.delimiter = true)
    (hcloser : closer.isCloser = true) {mode : Mode} (hmode : mode ≠ .literal) :
    (({ p with reader := { p.reader with mode := some mode } } : Pass).advance options
        ⟨String.ofList s, 0, none⟩).pieces options follow none (.tag closer :: rest) =
      (p.pastComment options ⟨String.ofList s, 0, none⟩ closer).pieces options follow (some closer)
        rest := by
  rw [pieces_tag (isClosed_of_isCloser hcloser), scan_closer hd hcloser options]
  · rfl
  · exact fun h => hmode (Option.some.inj h)

/-- Tags behind which directives are recognised open a region of code. -/
lemma exists_mode_of_acceptsDirective (h : tag.acceptsDirective = true) :
    tag.isOpener = true ∧ ∃ mode, Mode.ofTag? tag = some mode ∧ mode ≠ .literal := by
  cases tag <;> first | exact ⟨rfl, _, rfl, by decide⟩ | cases h

/-- A directive that is dropped is passed together with its tags. -/
lemma pieces_dropped (hd : Delimiter.isValid options.delimiter = true)
    (htag : tag.acceptsDirective = true) (hcloser : closer.isCloser = true)
    {directive : Directive} (hparse : Directive.parse? (String.ofList s) = some directive)
    (hfollow : ∀ p, follow directive p = .ok p) :
    p.pieces options follow before (.tag tag :: .literal s :: .tag closer :: rest) =
      (p.pastComment options ⟨String.ofList s, 0, none⟩ closer).pieces options follow (some closer)
        rest := by
  obtain ⟨hopens, mode, hmode, hne⟩ := exists_mode_of_acceptsDirective htag
  have hdirective : directive? (some tag) ⟨String.ofList s, 0, none⟩ = some directive := by
    simp [directive?, htag, hparse]
  have hclosed : Piece.isClosed (.literal s :: .tag closer :: rest) = true := hcloser
  rw [pieces_tag fun _ => hclosed, scan_opener hd hopens, hmode, pieces_literal, segment,
    hdirective]
  simp only [hfollow]
  exact pieces_closer hd hcloser hne

/-- A comment is passed together with its tags. -/
lemma pieces_comment (hd : Delimiter.isValid options.delimiter = true)
    (hcloser : closer.isCloser = true) :
    p.pieces options follow before (.tag .openComment :: .literal s :: .tag closer :: rest) =
      (p.pastComment options ⟨String.ofList s, 0, none⟩ closer).pieces options follow (some closer)
        rest := by
  have hclosed : Piece.isClosed (.literal s :: .tag closer :: rest) = true := hcloser
  have hdirective : directive? (some .openComment) ⟨String.ofList s, 0, none⟩ = none := rfl
  rw [pieces_tag fun _ => hclosed, scan_opener hd rfl, pieces_literal, segment, hdirective]
  simp only
  rw [scan_comment options rfl]
  exact pieces_closer hd hcloser (by decide)

end Pieces

/-! ### Passes with and without what is dropped -/

/-- A literal is read alike, or followed as a directive that is not dropped. -/
lemma Alike.segment {path : Option Path} {before : Option Tag} {s : String} (h : Alike same p q)
    (hkeep : ∀ directive, directive? before ⟨s, 0, none⟩ = some directive →
      Option.Rel (Alike same) (follow directive p).toOption (follow' directive q).toOption) :
    Option.Rel (Alike same) (p.segment options follow before ⟨s, 0, none⟩).toOption
      (q.segment { options with sourcePath := path } follow' before ⟨s, 0, none⟩).toOption := by
  unfold Pass.segment
  cases hdirective : directive? before ⟨s, 0, none⟩ with
  | none => exact .some (h.scan options _)
  | some directive =>
    have hfollow := hkeep directive hdirective
    simp only [toOption_map]
    generalize (follow directive p).toOption = x at hfollow ⊢
    generalize (follow' directive q).toOption = y at hfollow ⊢
    cases hfollow with
    | none => exact .none
    | some h => exact .some (h.advance options _)

/-- A pass that drops directives goes on like one over the pieces in which they are commented
out, if what is not dropped is followed alike.

**Proof sketch.** Induction on the number of pieces.  A directive that is dropped is passed together
with its tags, and so is the comment in its place; both passes have then taken over its lines and
nothing else.  If it is not closed, both fail.  All other pieces are the same for both. -/
theorem pieces_commentOut (hd : Delimiter.isValid options.delimiter = true) (path : Option Path)
    (hdrop : ∀ ⦃s⦄, drops s = true →
      ∃ directive, Directive.parse? s = some directive ∧ ∀ p, follow directive p = .ok p)
    (hkeep : ∀ ⦃s directive⦄, Directive.parse? s = some directive → drops s = false →
      ∀ ⦃p q⦄, Alike same p q →
        Option.Rel (Alike same) (follow directive p).toOption (follow' directive q).toOption)
    {ps : List Piece} {before : Option Tag}
    (hbefore : before.any Tag.acceptsDirective = true → Piece.beginsDropped drops ps = false)
    (h : Alike same p q) :
    Option.Rel (Alike same) (p.pieces options follow before ps)
      (q.pieces { options with sourcePath := path } follow' before
        (Piece.commentOut drops ps)) := by
  have hd' : Delimiter.isValid ({ options with sourcePath := path } : Options).delimiter = true :=
    hd
  induction hn : ps.length using Nat.strongRecOn generalizing ps before p q with
  | ind n ih =>
  subst hn
  cases ps with
  | nil => exact .some h
  | cons piece rest =>
    cases piece with
    | literal s =>
      have hsegment : Option.Rel (Alike same)
          (p.segment options follow before ⟨String.ofList s, 0, none⟩).toOption
          (q.segment { options with sourcePath := path } follow' before
            ⟨String.ofList s, 0, none⟩).toOption := by
        refine h.segment fun directive hdirective => ?_
        unfold directive? at hdirective
        split at hdirective
        · next hplace =>
          exact hkeep hdirective (hbefore (Bool.and_eq_true_iff.1 hplace).2) h
        · cases hdirective
      rw [Piece.commentOut, pieces_literal, pieces_literal]
      generalize (p.segment options follow before _).toOption = x at hsegment ⊢
      generalize (q.segment { options with sourcePath := path } follow' before _).toOption = y
        at hsegment ⊢
      cases hsegment with
      | none => exact .none
      | some h => exact ih rest.length (by simp) (by simp) h rfl
    | tag tag =>
      rw [Piece.commentOut, Piece.opener]
      cases hdropped : tag.acceptsDirective && Piece.beginsDropped drops rest with
      | true =>
        obtain ⟨haccepts, hbegins⟩ := Bool.and_eq_true_iff.1 hdropped
        obtain ⟨hopens, -⟩ := exists_mode_of_acceptsDirective haccepts
        rw [if_pos rfl]
        cases hclosed : Piece.isClosed rest with
        | false =>
          rw [pieces_unclosed hopens hclosed, pieces_unclosed rfl]
          · exact .none
          · rw [Piece.isClosed_commentOut, hclosed]
        | true =>
          obtain ⟨content, closer, behind, rfl, hcloser⟩ := Piece.exists_of_isClosed hclosed
          cases content with
          | tag content => cases hbegins
          | literal s =>
            obtain ⟨directive, hparse, hfollow⟩ := hdrop hbegins
            rw [Piece.commentOut, Piece.commentOut, (Piece.opener_eq_closer_iff hcloser).2 rfl,
              pieces_dropped hd haccepts hcloser hparse hfollow,
              pieces_comment hd' hcloser]
            refine ih behind.length (by simp; omega) ?_ (h.pastComment options _ closer) rfl
            intro hbehind
            cases closer <;> simp [Tag.isCloser, Tag.acceptsDirective] at hcloser hbehind
      | false =>
        rw [if_neg (by decide)]
        by_cases hclosed : tag.isOpener = true → Piece.isClosed rest = true
        · rw [pieces_tag hclosed, pieces_tag]
          · refine ih rest.length (by simp) ?_ (h.scan options _) rfl
            intro haccepts
            simpa [show tag.acceptsDirective = true from haccepts] using hdropped
          · rwa [Piece.isClosed_commentOut]
        · rw [Classical.not_imp, Bool.not_eq_true] at hclosed
          rw [pieces_unclosed hclosed.1 hclosed.2, pieces_unclosed hclosed.1]
          · exact .none
          · rw [Piece.isClosed_commentOut, hclosed.2]

/-! ### Directives that are followed -/

/-- Collectors that resolve references alike. -/
def SameReferences (c c' : Collector) : Prop := c.describe = c'.describe

/-- Instructions are put out alike. -/
lemma Alike.emit (h : Alike same p q) (program : Program) :
    Alike same (p.emit program) (q.emit program) where
  program := by simp only [Pass.emit, h.program]
  reader := h.reader
  dependencies := h.dependencies
  collector := h.collector

/-- A dependency is noted alike. -/
lemma Alike.depend (h : Alike same p q) (path : Path) :
    Alike same (p.depend path) (q.depend path) where
  program := h.program
  reader := h.reader
  dependencies := by simp only [Pass.depend, h.dependencies]
  collector := h.collector

/-- A template is put in alike, with what it has collected. -/
lemma Alike.splice (h : Alike SameReferences p q) (params : List String) (isolated : Bool)
    (path : Path) (inner : Compiled) :
    Alike SameReferences (p.splice params isolated path inner)
      (q.splice params isolated path inner) where
  program := by simp only [Pass.splice, h.program]
  reader := h.reader
  dependencies := by simp only [Pass.splice, h.dependencies]
  collector := h.collector

/-- A reference is put out alike, and resolved alike. -/
lemma Alike.referTo (h : Alike SameReferences p q) (kind : AssetKind) (reference : String) :
    Alike SameReferences (Template.referTo kind reference p)
      (Template.referTo kind reference q) := by
  have hpath : (p.collector.reference kind reference).2 =
      (q.collector.reference kind reference).2 :=
    congrArg (fun describe => (describe true reference).path) h.collector
  have hcollector : SameReferences (p.collector.reference kind reference).1
      (q.collector.reference kind reference).1 :=
    (p.collector.reference_spec kind reference).2.1.trans
      (h.collector.trans (q.collector.reference_spec kind reference).2.1.symm)
  simp only [Template.referTo, hpath]
  have hemit := h.emit [.append (kind.marker (q.collector.reference kind reference).2)]
  have hreferred : Alike SameReferences
      { p.emit [.append (kind.marker (q.collector.reference kind reference).2)] with
        collector := (p.collector.reference kind reference).1 }
      { q.emit [.append (kind.marker (q.collector.reference kind reference).2)] with
        collector := (q.collector.reference kind reference).1 } :=
    ⟨hemit.program, hemit.reader, hemit.dependencies, hcollector⟩
  exact hreferred.depend _

/-- A directive is followed alike by passes that resolve references alike.

**Proof sketch.** The cases of the directive.  What is looked up does not depend on the pass, so
both fail or both add the same to passes that are alike. -/
lemma Alike.followed (h : Alike SameReferences p q) (t : Template) (w : Workspace)
    (nested : Template.Nested) (directive : Directive) :
    Option.Rel (Alike SameReferences) (t.follow w nested directive p).toOption
      (t.follow w nested directive q).toOption := by
  cases directive with
  | includeFile reference params =>
    simp only [Template.follow, Template.includeFile]
    cases t.options.sourcePath with
    | none => exact .none
    | some current =>
      simp only
      cases nested (w.library.resolve reference current) none with
      | error e => exact .none
      | ok inner => exact .some ((h.splice _ _ _ inner).depend _)
  | includeComponent name params =>
    simp only [Template.follow, Template.includeComponent]
    cases w.lookup name with
    | error e =>
      simp only
      split
      · exact .some h
      · exact .none
    | ok c =>
      simp only
      cases nested c.mainTemplate (some c) with
      | error e => exact .none
      | ok inner => exact .some ((((h.emit _).splice _ _ _ inner).emit _).depend _)
  | script reference => exact .some (h.referTo .script reference)
  | style reference => exact .some (h.referTo .style reference)
  | beginCapture params => exact .some (h.emit _)
  | endCapture => exact .some (h.emit _)

end Pass

/-! ## Templates -/

namespace Template

variable {drops : String → Bool} {same : Collector → Collector → Prop} {t u : Template}
  {follow follow' : Directive → Pass → Except CompileError Pass} {p q : Pass}

/-- What the pass over a template comes to, if anything, is what one over its pieces comes to. -/
lemma toOption_pass (hd : Delimiter.isValid t.options.delimiter = true)
    (follow : Directive → Pass → Except CompileError Pass) (p : Pass) :
    (t.pass follow p).toOption = p.pieces t.options follow none t.pieces := by
  rw [pass, Segment.splitChecked, if_pos hd]
  exact Pass.toOption_segments t follow none p 0 t.pieces

/-- The pass over a template that drops directives, and one over the template in which these are
commented out.

**Proof sketch.** With a delimiter that is none, both passes fail.  Otherwise the pieces of the
second text are those of the first one with the openers replaced (`split_commentOut`), and the
passes go over them side by side (`Pass.pieces_commentOut`). -/
lemma pass_commentOut {path : Option Path}
    (hoptions : u.options = { t.options with sourcePath := path })
    (htext : Delimiter.isValid t.options.delimiter = true →
      u.text = commentOut t.options.delimiter drops t.text)
    (hdrop : ∀ ⦃s⦄, drops s = true →
      ∃ directive, Directive.parse? s = some directive ∧ ∀ p, follow directive p = .ok p)
    (hkeep : ∀ ⦃s directive⦄, Directive.parse? s = some directive → drops s = false →
      ∀ ⦃p q⦄, Pass.Alike same p q →
        Option.Rel (Pass.Alike same) (follow directive p).toOption (follow' directive q).toOption)
    (h : Pass.Alike same p q) :
    Option.Rel (Pass.Alike same) (t.pass follow p).toOption (u.pass follow' q).toOption := by
  have hdelim : u.options.delimiter = t.options.delimiter := by rw [hoptions]
  cases hd : Delimiter.isValid t.options.delimiter with
  | false =>
    have hfails {x : Template} (hx : Delimiter.isValid x.options.delimiter = false)
        (follow : Directive → Pass → Except CompileError Pass) (p : Pass) :
        (x.pass follow p).toOption = none := by
      rw [pass, Segment.splitChecked, if_neg (by simp [hx])]
      rfl
    rw [hfails hd, hfails (hdelim ▸ hd)]
    exact .none
  | true =>
    have hpieces : u.pieces = Piece.commentOut drops t.pieces := by
      rw [pieces, htext hd, hdelim, split_commentOut hd]
      rfl
    rw [toOption_pass hd, toOption_pass (hdelim ▸ hd), hpieces, hoptions]
    exact Pass.pieces_commentOut hd path hdrop hkeep (by simp) h

/-- Before the first segment the passes of templates that resolve references alike are alike. -/
lemma alike_start (w : Workspace) (h : t.collector = u.collector) :
    Pass.Alike Pass.SameReferences t.start u.start where
  program := rfl
  reader := rfl
  dependencies := rfl
  collector := by
    rw [Pass.SameReferences, (composes_start w t).describe, (composes_start w u).describe, h]

/-- What directives lead to does not depend on the text that they stand in. -/
lemma follow_nested_text (w : Workspace) (t : Template) (text : String) :
    let u : Template := { t with text := text }
    u.follow w (u.nested w) = t.follow w (t.nested w) := by
  intro u
  have hnested : u.nested w = t.nested w := rfl
  rw [hnested]
  rfl

end Template

namespace Workspace

/-- What compiling passes over is a directive, and following it changes nothing.

**Proof sketch.** Only an include of a component is passed over, namely one that is not found in a
way that is recoverable. -/
lemma exists_of_drops {w : Workspace} {s : String} (h : w.drops s = true) (t : Template)
    (nested : Template.Nested) :
    ∃ directive, Directive.parse? s = some directive ∧
      ∀ p, t.follow w nested directive p = .ok p := by
  obtain ⟨directive, hparse, hpasses⟩ : ∃ directive, Directive.parse? s = some directive ∧
      w.passesOver directive = true := by
    unfold drops at h
    cases hparse : Directive.parse? s with
    | none => simp [hparse] at h
    | some directive => exact ⟨directive, rfl, by simpa [hparse] using h⟩
  refine ⟨directive, hparse, fun p => ?_⟩
  cases directive with
  | includeComponent name params =>
    unfold passesOver at hpasses
    simp only [Template.follow, Template.includeComponent]
    cases hlookup : w.lookup name with
    | error e =>
      simp only [hlookup] at hpasses
      simp only [hpasses, if_true]
    | ok c => simp [hlookup] at hpasses
  | _ => cases hpasses

variable {text : String}

/-- A text in normal form in which directives are commented out is compiled as it is. -/
lemma ofText_commentOut (options : Options)
    (hnormal : Whitespace.normalize options.delimiter options.trimWhitespace text = text)
    (drops : String → Bool) (hd : Delimiter.isValid options.delimiter = true) :
    (Template.ofText options (Template.commentOut options.delimiter drops text)).text =
      Template.commentOut options.delimiter drops (Template.ofText options text).text := by
  rw [show (Template.ofText options text).text = text from hnormal]
  exact Template.normalize_commentOut hd drops hnormal

/-- A template is compiled as if the directives that are passed over were commented out.

**Proof sketch.** The two templates are passed over side by side (`pass_commentOut`), and the nested
templates are the same for both, as they do not depend on the text around them. -/
lemma expand_passing_over (w : Workspace) {t u : Template} (hu : u = { t with text := u.text })
    (htext : Delimiter.isValid t.options.delimiter = true →
      u.text = Template.commentOut t.options.delimiter w.drops t.text) :
    (Template.expand w t).toOption.map (fun c => (c.program, c.dependencies)) =
      (Template.expand w u).toOption.map fun c => (c.program, c.dependencies) := by
  have hfollow : u.follow w (u.nested w) = t.follow w (t.nested w) := by
    rw [hu]
    exact Template.follow_nested_text w t u.text
  have hoptions : u.options = t.options := by rw [hu]
  have hcollector : t.collector = u.collector := by
    rw [hu]
    rfl
  have hpass : Option.Rel (Pass.Alike Pass.SameReferences)
      (t.pass (t.follow w (t.nested w)) t.start).toOption
      (u.pass (u.follow w (u.nested w)) u.start).toOption := by
    rw [hfollow]
    exact Template.pass_commentOut hoptions htext (fun s hs => exists_of_drops hs t _)
      (fun s directive _ _ p q h => h.followed t w (t.nested w) directive)
      (Template.alike_start w hcollector)
  rw [Template.expand_eq, Template.expand_eq, toOption_map, toOption_map, Option.map_map,
    Option.map_map]
  exact map_eq_map_of_rel (fun p q h => Prod.ext h.program h.dependencies) hpass

/-- Compiling passes over a directive as if it were commented out. -/
theorem compile_passing_over (w : Workspace) (options : Options)
    (hnormal : Whitespace.normalize options.delimiter options.trimWhitespace text = text) :
    (w.compile options text).toOption.map (fun c => (c.program, c.dependencies)) =
      (w.compile options (Template.commentOut options.delimiter w.drops text)).toOption.map
        fun c => (c.program, c.dependencies) :=
  expand_passing_over w rfl (ofText_commentOut options hnormal w.drops)

/-- What is made of a template without its directives is what is made of it when they are
commented out, be they followed or not.

**Proof sketch.** The template without its directives is a pass that follows none of them.  So is
the pass over the other template, which has none, whatever it does with directives. -/
theorem withoutDirectives_eq (options : Options)
    (hnormal : Whitespace.normalize options.delimiter options.trimWhitespace text = text)
    (path : Option Path) :
    let bare := Template.commentOut options.delimiter Directive.isWritten text
    let t := Template.ofText options text
    let u := Template.ofText { options with sourcePath := path } bare
    t.withoutDirectives.toOption = u.withoutDirectives.toOption ∧
      ∀ w : Workspace, t.withoutDirectives.toOption =
        (w.compile { options with sourcePath := path } bare).toOption.map Compiled.program := by
  intro bare t u
  have hpass (follow : Directive → Pass → Except CompileError Pass) {q : Pass}
      (hq : Pass.Alike (fun _ _ => True) {} q) :
      Option.Rel (Pass.Alike fun _ _ => True) (t.pass (fun _ p => .ok p) {}).toOption
        (u.pass follow q).toOption := by
    refine Template.pass_commentOut rfl
      (ofText_commentOut options hnormal Directive.isWritten) (fun s hs => ?_)
      (fun s directive hparse hs => ?_) hq
    · obtain ⟨directive, hdirective⟩ := Option.isSome_iff_exists.1 hs
      exact ⟨directive, hdirective, fun p => rfl⟩
    · simp [Directive.isWritten, hparse] at hs
  refine ⟨?_, fun w => ?_⟩
  · rw [Template.withoutDirectives, Template.withoutDirectives, toOption_map, toOption_map]
    exact map_eq_map_of_rel (fun p q h => h.program) (hpass _ ⟨rfl, rfl, rfl, trivial⟩)
  · rw [Template.withoutDirectives, compile, Template.expand_eq, toOption_map, toOption_map,
      Option.map_map]
    exact map_eq_map_of_rel (fun p q h => h.program) (hpass _ ⟨rfl, rfl, rfl, trivial⟩)

/-- **Dropping directives is commenting them out,** for a text in normal form and all options.  A
build tool makes the same of a text as of the one in which the openers of all directives are
replaced, whatever the paths of the two are, and so does compiling that one, whatever it is compiled
through.  Compiling comes to the same program and the same dependencies for a text as for the one in
which the openers of those directives are replaced that include a component which cannot be found
but is not needed.

**Proof sketch.** The text with other openers is in normal form and is cut into the same pieces but
for the openers, so the passes over both can be compared piece by piece.  A directive that is
dropped is as good as a comment: behind its closer both passes are in no mode, have the same to take
away, and have come to the same line.  In the text of the build tool no other directive is left; the
directives that compiling follows add the same to both. -/
theorem dropping_eq_commenting (options : Options)
    (hnormal : Whitespace.normalize options.delimiter options.trimWhitespace text = text) :
    let bare := Template.commentOut options.delimiter Directive.isWritten text
    (∀ path path' : Option Path,
      (prebuild { options with sourcePath := path } text).toOption =
          (prebuild { options with sourcePath := path' } bare).toOption ∧
        ∀ w : Workspace,
          (Template.ofText { options with diagnostics := false, sourcePath := path }
              text).withoutDirectives.toOption =
            (w.compile { options with diagnostics := false, sourcePath := path' }
              bare).toOption.map Compiled.program) ∧
      ∀ w : Workspace,
        (w.compile options text).toOption.map (fun c => (c.program, c.dependencies)) =
          (w.compile options (Template.commentOut options.delimiter w.drops text)).toOption.map
            fun c => (c.program, c.dependencies) := by
  intro bare
  refine ⟨fun path path' => ?_, fun w => compile_passing_over w options hnormal⟩
  have hbare := withoutDirectives_eq { options with diagnostics := false, sourcePath := path }
    hnormal path'
  refine ⟨?_, hbare.2⟩
  rw [prebuild, prebuild, toOption_map, toOption_map, hbare.1]

/-- An include, and a component that cannot be found. -/
theorem dropping_eq_commenting_include :
    let text := "a <% include b %>\n<%- includeModule m -%>\nc"
    let options : Options := { sourcePath := some ⟨"/t/s.ejs"⟩ }
    let w : Workspace :=
      { library := (Templates.ofList [(⟨"/t/b.ejs"⟩, "d")]).library, lookup := Registry.lookup {} }
    Whitespace.normalize '%' false text = text ∧
      (prebuild {} "a <%# include b %>\n<%# includeModule m -%>\nc").toOption =
        (prebuild options text).toOption ∧
      (w.compile options "a <% include b %>\n<%# includeModule m -%>\nc").toOption.map
          (fun c => (c.program, c.dependencies)) =
        some ([.append "a ", .enterScope ⟨[], false, some ⟨"/t/b.ejs", "d"⟩⟩, .append "d",
          .exitScope, .line 2, .append "c", .line 3], [⟨"/t/b.ejs"⟩]) := by
  intro text options w
  have hnormal : Whitespace.normalize '%' false text = text := by decide +kernel
  have hagree := dropping_eq_commenting options hnormal
  have hbare : Template.commentOut '%' Directive.isWritten text =
      "a <%# include b %>\n<%# includeModule m -%>\nc" := by decide +kernel
  have hdropped : Template.commentOut '%' w.drops text =
      "a <% include b %>\n<%# includeModule m -%>\nc" := by decide +kernel
  refine ⟨hnormal, ?_, ?_⟩
  · rw [← hbare]
    exact (hagree.1 _ none).1.symm
  · rw [← hdropped]
    exact (hagree.2 w).symm.trans (by decide +kernel)

end Workspace

end Stencil
