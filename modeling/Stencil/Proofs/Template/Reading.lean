import Stencil.Proofs.Template.Delimiter
import Stencil.Proofs.Template.Placing

/-!
# What is code and what is output

The tag before a literal settles what becomes of it.  Reading keeps a mode from one segment to the
next, while another rule, which looks two segments ahead, settles whether a template is compiled at
all.  Where it is, both agree: code is never put out, output is never run, and nothing is lost.

## Main definitions

* `Stencil.Segment.previous`, `Stencil.Segment.latest` — the tag right before a segment, and the
  nearest one.
* `Stencil.Segment.Yields` — the instructions that a segment may give.
* `Stencil.Segment.shown` — the text that a segment puts out where nothing is trimmed.
* `Stencil.Reader.after` — the reader behind some segments.
* `Stencil.Segment.Regular` — segments among which no two literals stand side by side, and every
  opening tag is closed.

## Main results

* `Stencil.Reader.mode_after` — the mode is that of the nearest tag.
* `Stencil.Reader.yields_take` — each of regular segments gives what it may give.
* `Stencil.Reader.join_texts_readings` — what they put out without trimming.
* `Stencil.Workspace.compile_reads` — what becomes of each segment of a template that compiles.
-/

set_option relaxedAutoImplicit false
set_option autoImplicit false

namespace Stencil

/-! ## Segments behind others -/

/-- The text that a tag puts out, given the nearest tag before it: `<%` for `<%%`, and the
closing tag behind it as it is written. -/
def Tag.output? (d : Char) (latest : Option Tag) : Tag → Option String
  | .literal => some (String.ofList (Tag.openCode.text d))
  | t => if t.isCloser && latest = some .literal then some (String.ofList (t.text d)) else none

namespace Segment

/-- **The tag right before what stands behind some segments;** none behind a literal. -/
def previous (before : List Segment) : Option Tag := before.getLast?.bind tag

/-- **The nearest tag before what stands behind some segments.** -/
def latest (before : List Segment) : Option Tag := (before.filterMap tag).getLast?

/-- The text of a literal that is read: nothing, if it is blank and such text is dropped. -/
def kept (options : Options) (s : Segment) : List Char :=
  if options.dropBlank && Text.allBlank s.text.toList then [] else s.text.toList

/-- The marker of the line behind a segment, if the segment ends a line and lines are
tracked. -/
def marker (options : Options) (before : List Segment) (s : Segment) : Program :=
  if s.newlines ≠ 0 && options.diagnostics then [.line (lineBehind (before ++ [s]))] else []

/-- Instructions that put out a literal: its text, possibly without a line break, if anything
is left of it. -/
def PutsOut (options : Options) (s : Segment) (program : Program) : Prop :=
  ∃ text, (text = s.kept options ∨ text = (s.kept options).erase '\n') ∧
    program = if text.isEmpty then [] else [.append (String.ofList text)]

/-- Whether a closing tag stands first. -/
def closes (behind : List Segment) : Bool := (behind.head?.bind tag).any Tag.isCloser

/-- **The instructions that a segment may give,** between the segments before and behind it.  A
literal right behind an opening tag is code, and a closing tag stands behind it; behind the tag of a
comment it is nothing, and everywhere else it is output. -/
def Yields (options : Options) (before : List Segment) (s : Segment) (behind : List Segment)
    (program : Program) : Prop :=
  match s.tag with
  | some t => program = (t.output? options.delimiter (latest before)).toList.map .append
  | none =>
    match previous before with
    | some .openCode | some .openSlurp =>
      closes behind = true ∧
        program = [.exec (String.ofList (closeLineComment (s.kept options)))]
    | some .openEscaped =>
      closes behind = true ∧
        program = [.appendEscaped (String.ofList (outputExpression (s.kept options)))]
    | some .openRaw =>
      closes behind = true ∧
        program = [.appendRaw (String.ofList (outputExpression (s.kept options)))]
    | some .openComment => program = []
    | _ => s.PutsOut options program

/-- **The text that a segment puts out** where nothing is trimmed: a literal that no opening tag
stands right before, and what tags put out. -/
def shown (d : Char) (before : List Segment) (s : Segment) : String :=
  match s.tag with
  | some t => (t.output? d (latest before)).getD ""
  | none => if (previous before).any Tag.isOpener then "" else s.text

/-- The text that segments put out behind others, where nothing is trimmed. -/
def shownBehind (d : Char) (before : List Segment) : List Segment → String
  | [] => ""
  | s :: rest => s.shown d before ++ shownBehind d (before ++ [s]) rest

/-- The tag right before what stands behind one more segment. -/
lemma previous_concat (before : List Segment) (s : Segment) :
    previous (before ++ [s]) = s.tag := by
  simp [previous]

/-- The nearest tag before what stands behind one more segment. -/
lemma latest_concat (before : List Segment) (s : Segment) :
    latest (before ++ [s]) = s.tag.or (latest before) := by
  cases hs : s.tag <;> simp [latest, hs]

/-- The nearest tag has literals alone behind it. -/
lemma exists_of_latest {segments : List Segment} {t : Tag} (h : latest segments = some t) :
    ∃ before s behind, segments = before ++ s :: behind ∧ s.tag = some t ∧
      ∀ s' ∈ behind, s'.tag = none := by
  induction segments using List.reverseRecOn with
  | nil => cases h
  | append_singleton front s ih =>
    rw [latest_concat] at h
    cases hs : s.tag with
    | some t' =>
      rw [hs] at h
      exact ⟨front, s, [], rfl, hs.trans h, by simp⟩
    | none =>
      rw [hs] at h
      obtain ⟨before, s', behind, rfl, hs', hbehind⟩ := ih h
      refine ⟨before, s', behind ++ [s], by simp, hs', fun s'' hmem => ?_⟩
      rcases List.mem_append.1 hmem with hmem | hmem
      · exact hbehind s'' hmem
      · rw [List.mem_singleton.1 hmem, hs]

end Segment

/-- The mode of text behind an escaped delimiter is set by it alone. -/
lemma Mode.bind_ofTag?_eq_literal_iff {t : Option Tag} :
    t.bind Mode.ofTag? = some .literal ↔ t = some .literal := by
  rcases t with _ | t
  · simp
  · cases t <;> simp [Mode.ofTag?]

/-- Text is not code where the nearest tag is no opening tag. -/
lemma Mode.bind_ofTag?_of_not_isOpener {t : Option Tag} (h : t.any Tag.isOpener = false) :
    t.bind Mode.ofTag? = none ∨ t.bind Mode.ofTag? = some .literal := by
  rcases t with _ | t
  · exact .inl rfl
  · cases t <;> simp_all [ofTag?, Tag.isOpener]

/-- The texts that a program puts out. -/
def Program.texts (program : Program) : List String :=
  program.filterMap fun
    | .step (.append text) => some text
    | _ => none

/-- The texts of one program and then those of another. -/
lemma Program.texts_append (p q : Program) : (p ++ q).texts = p.texts ++ q.texts :=
  List.filterMap_append

/-! ## The reader behind segments -/

namespace Reader

variable {options : Options}

/-- **The reader behind some segments.** -/
def after (options : Options) (segments : List Segment) : Reader :=
  segments.foldl (fun r s => (r.scan options s).1) {}

/-- The instructions that segments give behind others, each with its segment. -/
def readings (options : Options) (before : List Segment) : List Segment → List (Segment × Program)
  | [] => []
  | s :: rest =>
    (s, ((after options before).scan options s).2) :: readings options (before ++ [s]) rest

/-- A segment without its lines. -/
def take (options : Options) (r : Reader) (s : Segment) : Reader × Program :=
  match s.tag with
  | some t => r.scanTag options t
  | none => r.scanText options (s.kept options)

/-- A segment is read, and then its lines are passed. -/
lemma scan_eq_take (r : Reader) (s : Segment) :
    r.scan options s =
      (((r.take options s).1.advance options s.newlines).1,
        (r.take options s).2 ++ ((r.take options s).1.advance options s.newlines).2) := by
  unfold scan take
  cases s.tag <;> rfl

/-- The mode behind a segment. -/
lemma mode_take (r : Reader) (s : Segment) :
    (r.take options s).1.mode = s.tag.elim r.mode Mode.ofTag? := by
  unfold take
  cases s.tag with
  | none =>
    show (r.scanText options _).1.mode = r.mode
    unfold scanText
    split <;> rfl
  | some t =>
    show (r.scanTag options t).1.mode = Mode.ofTag? t
    unfold scanTag
    cases t <;> rfl

/-- Reading a segment without its lines leaves the line as it is. -/
lemma line_take (r : Reader) (s : Segment) : (r.take options s).1.line = r.line := by
  unfold take
  cases s.tag with
  | none =>
    show (r.scanText options _).1.line = r.line
    unfold scanText
    split <;> rfl
  | some t =>
    show (r.scanTag options t).1.line = r.line
    unfold scanTag
    split_ifs <;> rfl

/-- The reader behind one more segment. -/
lemma after_concat (before : List Segment) (s : Segment) :
    after options (before ++ [s]) = ((after options before).scan options s).1 := by
  rw [after, List.foldl_concat]
  rfl

/-- **The mode is that of the nearest tag;** there is none before the first tag and behind a closing
one. -/
theorem mode_after (segments : List Segment) :
    (after options segments).mode = (Segment.latest segments).bind Mode.ofTag? := by
  induction segments using List.reverseRecOn with
  | nil => rfl
  | append_singleton before s ih =>
    rw [after_concat, scan_eq_take, Segment.latest_concat]
    show ((after options before).take options s).1.mode = _
    rw [mode_take, ih]
    cases s.tag <;> rfl

/-- The line is counted. -/
theorem line_after (segments : List Segment) :
    (after options segments).line = Segment.lineBehind segments := by
  induction segments using List.reverseRecOn with
  | nil => rfl
  | append_singleton before s ih =>
    rw [after_concat, scan_eq_take, Segment.lineBehind_append]
    show ((after options before).take options s).1.line + s.newlines = _
    rw [line_take, ih]

/-- What a segment gives, and the marker of the line behind it. -/
lemma scan_after (before : List Segment) (s : Segment) :
    ((after options before).scan options s).2 =
      ((after options before).take options s).2 ++ s.marker options before := by
  rw [scan_eq_take]
  show _ ++ (advance options _ s.newlines).2 = _
  rw [advance, line_take, line_after, Segment.marker, Segment.lineBehind_append]

/-- What is read of segments is read of them in order. -/
lemma map_fst_readings (before segments : List Segment) :
    (readings options before segments).map Prod.fst = segments := by
  induction segments generalizing before with
  | nil => rfl
  | cons s rest ih => rw [readings, List.map_cons, ih]

/-- What is read of segments stands at its place among them. -/
lemma of_readings_eq_append {before segments : List Segment}
    {front behind : List (Segment × Program)} {s : Segment} {program : Program}
    (h : readings options before segments = front ++ (s, program) :: behind) :
    segments = front.map Prod.fst ++ s :: behind.map Prod.fst ∧
      program = ((after options (before ++ front.map Prod.fst)).scan options s).2 := by
  induction segments generalizing before front with
  | nil => simp [readings] at h
  | cons first rest ih =>
    cases front with
    | nil =>
      obtain ⟨hfirst, rfl⟩ := List.cons_eq_cons.1 h
      obtain ⟨rfl, rfl⟩ := Prod.mk.inj hfirst
      simp [map_fst_readings]
    | cons reading front =>
      obtain ⟨rfl, hrest⟩ := List.cons_eq_cons.1 h
      obtain ⟨rfl, hprogram⟩ := ih hrest
      simp [hprogram]

end Reader

/-! ## Regular segments -/

namespace Segment

/-- **Segments among which no two literals stand side by side,** and in which every opening tag is
closed behind the one segment that it opens for. -/
structure Regular (segments : List Segment) : Prop where
  /-- A tag stands between any two literals. -/
  separated : ∀ {before s s' behind}, segments = before ++ s :: s' :: behind →
    s.tag = none → s'.tag ≠ none
  /-- Opening tags are closed. -/
  closed : ∀ {before s behind}, segments = before ++ s :: behind →
    s.tag.any Tag.isOpener = true → Pass.isClosed behind = true

namespace Regular

variable {segments before behind : List Segment} {s : Segment}

/-- Before a literal, the nearest tag stands right before it. -/
lemma latest_eq_previous (h : Regular segments) (hs : segments = before ++ s :: behind)
    (hliteral : s.tag = none) : latest before = previous before := by
  rcases List.eq_nil_or_concat before with rfl | ⟨front, last, rfl⟩
  · rfl
  · rw [List.concat_eq_append] at hs ⊢
    rw [latest_concat, previous_concat]
    cases hlast : last.tag with
    | some t => rfl
    | none =>
      rw [List.append_assoc] at hs
      exact absurd hliteral (h.separated hs hlast)

/-- Behind an opening tag and a literal, a closing tag stands. -/
lemma closes_of_previous (h : Regular segments) (hs : segments = before ++ s :: behind)
    (hopen : (previous before).any Tag.isOpener = true) : closes behind = true := by
  rcases List.eq_nil_or_concat before with rfl | ⟨front, last, rfl⟩
  · cases hopen
  · rw [List.concat_eq_append] at hs hopen
    rw [previous_concat] at hopen
    rw [List.append_assoc] at hs
    have hclosed := h.closed hs hopen
    unfold Pass.isClosed at hclosed
    rw [closes, List.head?_eq_getElem?]
    exact hclosed

/-- Behind all segments, the nearest tag is no opening tag. -/
lemma not_isOpener_latest (h : Regular segments) :
    (latest segments).any Tag.isOpener = false := by
  cases hlatest : latest segments with
  | none => rfl
  | some t =>
    obtain ⟨before, s, behind, hs, hst, hliteral⟩ := exists_of_latest hlatest
    by_contra hopen
    rw [Bool.not_eq_false, ← hst] at hopen
    have hclosed := h.closed hs hopen
    unfold Pass.isClosed at hclosed
    cases hnext : behind[1]? with
    | none => simp [hnext] at hclosed
    | some s' => simp [hnext, hliteral s' (List.mem_of_getElem? hnext)] at hclosed

end Regular

end Segment

namespace Reader

variable {options : Options}

/-- What a tag puts out in the mode of the nearest tag before it. -/
lemma scanTag_snd (hd : Delimiter.isValid options.delimiter = true) {r : Reader}
    {latest : Option Tag} (hmode : r.mode = latest.bind Mode.ofTag?) (t : Tag) :
    (r.scanTag options t).2 = (t.output? options.delimiter latest).toList.map .append := by
  have hcloser (ht : t.isCloser = true) : (r.scanTag options t).2 =
      (if latest = some .literal then some (String.ofList (t.text options.delimiter))
        else none).toList.map .append := by
    rw [scanTag, if_pos ht, output_tag hd, hmode]
    simp only [Mode.bind_ofTag?_eq_literal_iff]
    split_ifs <;> rfl
  cases t
  case close | closeTrim | closeSlurp => simpa [Tag.output?, Tag.isCloser] using hcloser rfl
  all_goals rfl

/-- What is put out of a literal. -/
lemma putsOut_output (r : Reader) (s : Segment) :
    s.PutsOut options (r.output options (s.kept options)).2 := by
  have hdrop (text : List Char) : dropLeadingNewline text = text ∨
      dropLeadingNewline text = text.erase '\n' := by
    unfold dropLeadingNewline
    split
    · exact .inr (List.erase_cons_head ..).symm
    · exact .inl rfl
  unfold output
  dsimp only
  refine ⟨_, ?_, rfl⟩
  split_ifs
  · exact .inr rfl
  · exact hdrop _
  · exact .inl rfl

/-- **Each of regular segments gives what it may give.**

**Proof sketch.** A literal has the tag that settles its mode right before it, as no other literal
stands between them; so the literals that are read as code are those right behind an opening tag,
whose closing tag stands two segments on. -/
theorem yields_take (hd : Delimiter.isValid options.delimiter = true)
    {segments before behind : List Segment} {s : Segment}
    (h : Segment.Regular segments) (hs : segments = before ++ s :: behind) :
    s.Yields options before behind ((after options before).take options s).2 := by
  have hmode : (after options before).mode = (Segment.latest before).bind Mode.ofTag? :=
    mode_after before
  unfold Segment.Yields take
  cases htag : s.tag with
  | none =>
    rw [h.latest_eq_previous hs htag] at hmode
    have hcloses := h.closes_of_previous hs
    dsimp only
    rw [scanText, hmode]
    cases hprevious : Segment.previous before with
    | none => exact putsOut_output _ s
    | some t =>
      rw [hprevious] at hcloses
      cases t
      case openCode | openSlurp | openEscaped | openRaw => exact ⟨hcloses rfl, rfl⟩
      case openComment => rfl
      all_goals exact putsOut_output _ s
  | some t =>
    exact scanTag_snd hd hmode t

/-! ### Output that is not trimmed -/

section Untrimmed

variable (htrim : options.trimWhitespace = false) (hblank : options.dropBlank = false)

/-- No line break is to be taken away where no closing tag does so.

**Proof sketch.** Induction on the segments from the last one.  Only a tag that trims or slurps sets
the mark. -/
lemma truncate_after {segments : List Segment}
    (h : ∀ s ∈ segments, s.tag ≠ some .closeTrim ∧ s.tag ≠ some .closeSlurp) :
    (after options segments).truncate = false := by
  induction segments using List.reverseRecOn with
  | nil => rfl
  | append_singleton before s ih =>
    have hbefore := ih fun s' hs' => h s' (List.mem_append_left _ hs')
    obtain ⟨hno, hno'⟩ := h s (by simp)
    rw [after_concat, scan_eq_take]
    show ((after options before).take options s).1.truncate = false
    unfold take
    cases htag : s.tag with
    | none =>
      show (scanText options _ _).1.truncate = false
      unfold scanText
      split <;> first | rfl | exact hbefore
    | some t =>
      show (scanTag options _ t).1.truncate = false
      unfold scanTag
      split_ifs <;> simp_all

/-- A text that may be put out. -/
lemma join_texts_toList (text : Option String) :
    String.join (Program.texts (text.toList.map .append)) = text.getD "" := by
  cases text <;> simp [Program.texts]

include htrim

/-- Text that is not trimmed is put out as it is. -/
lemma join_texts_output {r : Reader} (hr : r.truncate = false) (s : List Char) :
    String.join (r.output options s).2.texts = String.ofList s := by
  unfold output
  simp only [hr, htrim, Bool.false_eq_true, if_false]
  cases s <;> simp [Program.texts]

include hblank

/-- Each of regular segments puts out its text, if nothing is trimmed.

**Proof sketch.** The mode of the reader is that of the tag before the segment.  A tag puts out its
delimiter if it is escaped, and a text its characters, unless it stands in code. -/
theorem join_texts_take (hd : Delimiter.isValid options.delimiter = true)
    {segments before behind : List Segment} {s : Segment}
    (h : Segment.Regular segments) (hs : segments = before ++ s :: behind)
    (hr : (after options before).truncate = false) :
    String.join ((after options before).take options s).2.texts =
      s.shown options.delimiter before := by
  have hmode : (after options before).mode = (Segment.latest before).bind Mode.ofTag? :=
    mode_after before
  unfold Segment.shown take
  cases htag : s.tag with
  | some t =>
    show String.join (scanTag options _ t).2.texts = _
    rw [scanTag_snd hd hmode]
    exact join_texts_toList _
  | none =>
    rw [h.latest_eq_previous hs htag] at hmode
    have houtput : String.join ((after options before).output options (s.kept options)).2.texts =
        s.text := by
      rw [join_texts_output htrim hr, Segment.kept, hblank]
      exact String.ofList_toList
    dsimp only
    rw [scanText, hmode]
    cases hprevious : Segment.previous before with
    | none => exact houtput
    | some t =>
      cases t
      case openCode | openSlurp | openEscaped | openRaw | openComment => rfl
      all_goals exact houtput

/-- **Regular segments put out their texts** one after the other, if nothing is trimmed. -/
theorem join_texts_readings (hd : Delimiter.isValid options.delimiter = true)
    {segments : List Segment} (h : Segment.Regular segments)
    (hclosers : ∀ s ∈ segments, s.tag ≠ some .closeTrim ∧ s.tag ≠ some .closeSlurp)
    {before rest : List Segment} (hs : segments = before ++ rest) :
    String.join (Program.texts ((readings options before rest).flatMap Prod.snd)) =
      Segment.shownBehind options.delimiter before rest := by
  induction rest generalizing before with
  | nil => rfl
  | cons s rest ih =>
    have hr : (after options before).truncate = false :=
      truncate_after fun s' hs' => hclosers s' (by simp [hs, hs'])
    have hfirst := join_texts_take htrim hblank hd h hs hr
    have hmarker : (s.marker options before).texts = [] := by
      unfold Segment.marker
      split_ifs <;> rfl
    rw [readings, List.flatMap_cons, scan_after, Program.texts_append, Program.texts_append,
      hmarker, List.append_nil, String.join_append, hfirst,
      ih (by rw [hs, List.append_assoc]; rfl), Segment.shownBehind]

end Untrimmed

end Reader

/-! ## Templates that compile -/

namespace Piece

/-- No two literals stand side by side among the pieces of a text. -/
lemma Tiled.isChain_tag? {d : Char} {pieces : List Piece} (h : Tiled d pieces) :
    (pieces.map tag?).IsChain fun a b => a = none → b ≠ none := by
  induction h with
  | nil => exact .nil
  | @tag t rest _ _ ih =>
    rw [List.map_cons, List.isChain_cons]
    exact ⟨fun _ _ => nofun, ih⟩
  | @literal s rest _ hno _ _ ih =>
    rw [List.map_cons, List.isChain_cons]
    refine ⟨fun b hb _ => ?_, ih⟩
    obtain rfl | ⟨t, behind, rfl⟩ := hno.cases
    · cases hb
    · cases hb
      exact nofun

end Piece

/-- No two literals stand side by side among the segments of a text. -/
lemma Segment.separated_split {d : Char} {text : String} {before behind : List Segment}
    {s s' : Segment} (hs : split d text = before ++ s :: s' :: behind) :
    s.tag = none → s'.tag ≠ none := by
  have hchain := (Piece.tiled_split d text.toList).isChain_tag?
  rw [← Pass.map_tag_locate d 0] at hchain
  change ((split d text).map tag).IsChain _ at hchain
  rw [hs, List.map_append, List.map_cons, List.map_cons, List.isChain_append_cons_cons] at hchain
  exact hchain.2.1

namespace Pass

variable {t : Template} {follow : Directive → Pass → Except CompileError Pass}

/-- A pass that succeeds where there are no directives has read every segment, and every opening
tag is closed.

**Proof sketch.** Induction on the pieces, with what has been read before generalized.  As no piece
is a directive, the pass scans every segment, and its reader is that which has gone over the
segments before. -/
lemma readings_of_segments (before : List Segment) {pieces : List Piece} {p q : Pass}
    {offset : Nat} (hfree : Piece.directives (Segment.previous before) pieces = [])
    (hp : p.reader = Reader.after t.options before)
    (h : p.segments t follow (Segment.previous before)
      (Segment.locate t.options.delimiter offset pieces) = .ok q) :
    q.program = p.program ++ (Reader.readings t.options before
        (Segment.locate t.options.delimiter offset pieces)).flatMap Prod.snd ∧
      ∀ {front s behind}, Segment.locate t.options.delimiter offset pieces = front ++ s :: behind →
        s.tag.any Tag.isOpener = true → isClosed behind = true := by
  induction pieces generalizing before p offset with
  | nil =>
    cases h
    exact ⟨(List.append_nil _).symm, by simp [Segment.locate]⟩
  | cons piece rest ih =>
    have hdirective := directive?_eq_none (d := t.options.delimiter) hfree offset
    have hrest := directives_tail hfree
    rw [locate_cons] at h ⊢
    obtain ⟨s, hs⟩ : ∃ s : Segment,
      s = ⟨String.ofList (piece.text t.options.delimiter), offset, piece.tag?⟩ := ⟨_, rfl⟩
    have htag : Segment.previous (before ++ [s]) = piece.tag? := by
      rw [Segment.previous_concat, hs]
    rw [← hs] at h hdirective ⊢
    rw [segments] at h
    split at h
    · cases h
    · next hclosed =>
      rw [segment, hdirective] at h
      change (p.scan t.options s).segments t follow s.tag _ = .ok q at h
      rw [← Segment.previous_concat before s] at h
      have hreader : (p.scan t.options s).reader = Reader.after t.options (before ++ [s]) := by
        rw [Reader.after_concat, ← hp]
        rfl
      obtain ⟨hprogram, hbehind⟩ := ih _ (htag ▸ hrest) hreader h
      refine ⟨?_, fun {front s' behind} hsplit hopen => ?_⟩
      · rw [hprogram, Reader.readings, List.flatMap_cons, ← List.append_assoc, ← hp]
        rfl
      · cases front with
        | nil =>
          obtain ⟨rfl, rfl⟩ := List.cons_eq_cons.1 hsplit
          simpa [hopen] using hclosed
        | cons _ front => exact hbehind (List.cons_eq_cons.1 hsplit).2 hopen

end Pass

namespace Template

variable {w : Workspace} {t : Template} {c : Compiled}

/-- A template without directives that compiles gives what is read of its segments, and these
are regular. -/
theorem readings_of_expand (hfree : Piece.directives none t.pieces = []) (h : expand w t = .ok c) :
    Delimiter.isValid t.options.delimiter = true ∧ Segment.Regular t.segments ∧
      c.program = (Reader.readings t.options [] t.segments).flatMap Prod.snd := by
  rw [expand_eq, pass, Segment.splitChecked] at h
  split_ifs at h with hd
  · change (t.start.segments t (t.follow w (t.nested w)) none t.segments).map t.compiled =
      .ok c at h
    cases hq : t.start.segments t (t.follow w (t.nested w)) none t.segments with
    | error e => rw [hq] at h; cases h
    | ok q =>
      rw [hq] at h
      cases h
      obtain ⟨hprogram, hclosed⟩ := Pass.readings_of_segments [] hfree rfl hq
      exact ⟨hd, ⟨Segment.separated_split, hclosed⟩, hprogram⟩
  · cases h

end Template

/-! ## What becomes of a template -/

namespace Workspace

variable {w : Workspace} {options : Options} {text : String} {c : Compiled}

/-- **Text is split between code and output without loss.**  Let a template compile that has no
directives in its normal form.  Its segments make up the normal form, and the program is what they
give, one after the other, with the markers of lines.

* A literal right behind `<%`, `<%_`, `<%=` or `<%-` has a closing tag right behind it and gives
  one instruction of that kind; behind `<%#` it gives none; every other literal gives at most its
  text as output.  The reader ends outside of code.
* If nothing is trimmed, then what is put out is the normal form without the literals behind
  opening tags and without tags, except that `<%%` becomes `<%` and a closing tag with `<%%` before
  it stays.

**Proof sketch.** The reader is in the mode of the nearest tag (`mode_after`).  Two literals never
stand side by side, so the nearest tag before a literal stands right before it, and the rule that
opening tags are closed two segments on says that a closing tag follows the literal. -/
theorem compile_reads (h : w.compile options text = .ok c)
    (hfree : Piece.directives none (Template.ofText options text).pieces = []) :
    let segments := Segment.split options.delimiter c.text
    c.text = Whitespace.normalize options.delimiter options.trimWhitespace text ∧
      String.join (segments.map Segment.text) = c.text ∧
      (∃ readings : List (Segment × Program), readings.map Prod.fst = segments ∧
        c.program = readings.flatMap Prod.snd ∧
        ∀ before s program behind, readings = before ++ (s, program) :: behind →
          ∃ given, program = given ++ s.marker options (before.map Prod.fst) ∧
            s.Yields options (before.map Prod.fst) (behind.map Prod.fst) given) ∧
      ((Reader.after options segments).mode = none ∨
        (Reader.after options segments).mode = some .literal) ∧
      (options.trimWhitespace = false → options.dropBlank = false →
        (∀ s ∈ segments, s.tag ≠ some .closeTrim ∧ s.tag ≠ some .closeSlurp) →
          String.join c.program.texts = Segment.shownBehind options.delimiter [] segments) := by
  intro segments
  have htext : c.text = (Template.ofText options text).text := Template.text_of_expand h
  obtain ⟨hd, hregular, hprogram⟩ := Template.readings_of_expand hfree h
  have hsegments : segments = (Template.ofText options text).segments :=
    congrArg (Segment.split options.delimiter) htext
  rw [← hsegments] at hregular hprogram
  refine ⟨htext, Segment.join_split _ _, ⟨_, Reader.map_fst_readings [] segments, hprogram, ?_⟩,
    ?_, fun htrim hblank hclosers => ?_⟩
  · intro before s program behind hreadings
    obtain ⟨hs, rfl⟩ := Reader.of_readings_eq_append hreadings
    exact ⟨_, Reader.scan_after _ s, Reader.yields_take hd hregular hs⟩
  · rw [Reader.mode_after]
    exact Mode.bind_ofTag?_of_not_isOpener hregular.not_isOpener_latest
  · rw [hprogram]
    exact Reader.join_texts_readings htrim hblank hd hregular hclosers rfl

/-- A template with an expression, a comment and an escaped delimiter, and what it puts out of its
text. -/
theorem compile_reads_escaped_delimiter :
    let w : Workspace := { library := Templates.library {}, lookup := Registry.lookup {} }
    let options : Options := { dropBlank := false }
    let text := "a<%= b %><%# c %>\n<%% d %>e"
    ∃ c, w.compile options text = .ok c ∧
      Piece.directives none (Template.ofText options text).pieces = [] ∧
      String.join c.program.texts = "a\n<% d %>e" := by
  intro w options text
  have hpercent : Delimiter.isValid '%' = true := by decide
  have hpieces : (Template.ofText options text).pieces =
      [.literal "a".toList, .tag .openEscaped, .literal " b ".toList, .tag .close,
        .tag .openComment, .literal " c ".toList, .tag .close, .literal "\n".toList,
        .tag .literal, .literal " d ".toList, .tag .close, .literal "e".toList] := by
    decide +kernel
  have hfree : Piece.directives none (Template.ofText options text).pieces = [] := by
    rw [hpieces]
    rfl
  have hclosed : Piece.unclosed? (Template.ofText options text).pieces = none := by
    rw [hpieces]
    rfl
  have hdelimiter : options = { options with delimiter := '%' } := rfl
  obtain ⟨c, hc, -⟩ := Template.expand_of_closed (w := w) hpercent hdelimiter hfree hclosed
  obtain ⟨htext, -, -, -, hjoin⟩ := compile_reads (w := w) hc hfree
  rw [htext] at hjoin
  refine ⟨c, hc, hfree, (hjoin rfl rfl ?_).trans ?_⟩ <;> decide +kernel

end Workspace

end Stencil
