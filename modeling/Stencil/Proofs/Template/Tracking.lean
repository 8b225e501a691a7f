import Stencil.Artifact
import Stencil.Proofs.Template.Reading

/-!
# Line tracking

Lines are tracked by instructions of their own.  Compiling without them gives what compiling with
them gives, less these instructions, or the same error.

## Main definitions

* `Stencil.Options.untracked`, `Template.untracked`, `Artifact.untracked` — what they are of where
  lines are not tracked.
* `Stencil.Program.withoutLines` — a program without the instructions that tell lines.

## Main results

* `Stencil.Pass.segments_untracked` — a pass that does not track lines gathers what the pass that
  does gathers, without the lines.
* `Stencil.Template.expand_untracked`, `Stencil.Workspace.artifact_untracked` — so does compiling.
-/

set_option relaxedAutoImplicit false
set_option autoImplicit false

namespace Stencil

/-! ## Programs without lines -/

/-- **The options** with lines not tracked. -/
def Options.untracked (options : Options) : Options := { options with diagnostics := false }

/-- Whether an instruction tells a line. -/
def Instruction.isLine : Instruction → Bool
  | .step (.line _) => true
  | _ => false

namespace Program

/-- **A program without the instructions that tell lines.** -/
def withoutLines (program : Program) : Program := program.filter fun i => !i.isLine

/-- The lines go from both parts of a program. -/
lemma withoutLines_append (p q : Program) :
    withoutLines (p ++ q) = withoutLines p ++ withoutLines q :=
  List.filter_append ..

/-- An instruction that tells a line goes. -/
lemma withoutLines_cons_of_isLine {i : Instruction} (h : i.isLine = true) (p : Program) :
    withoutLines (i :: p) = withoutLines p :=
  List.filter_cons_of_neg (by simp [h])

/-- Any other stays. -/
lemma withoutLines_cons {i : Instruction} (h : i.isLine = false) (p : Program) :
    withoutLines (i :: p) = i :: withoutLines p :=
  List.filter_cons_of_pos (by simp [h])

end Program

/-! ## Reading -/

namespace Reader

variable (options : Options) (r : Reader)

/-- The reader goes on over line breaks, and tells no line. -/
lemma advance_untracked (count : Nat) :
    r.advance options.untracked count =
      Prod.map id Program.withoutLines (r.advance options count) := by
  unfold advance Options.untracked
  split <;> split <;> simp_all [Program.withoutLines, Instruction.isLine]

/-- Output text tells no line. -/
lemma withoutLines_output (s : List Char) :
    (r.output options s).2.withoutLines = (r.output options s).2 := by
  unfold output
  dsimp only
  generalize (if r.truncate then _ else _ : List Char) = kept
  split <;> rfl

/-- A segment without its lines tells no line. -/
lemma withoutLines_take (s : Segment) :
    (r.take options s).2.withoutLines = (r.take options s).2 := by
  unfold take
  cases s.tag with
  | none =>
    dsimp only
    unfold scanText
    split <;> first | exact withoutLines_output options r _ | rfl
  | some t =>
    dsimp only
    unfold scanTag
    split
    · dsimp only
      split
      · exact withoutLines_output options r _
      · rfl
    · dsimp only
      split <;> rfl

/-- It is read as it is where lines are tracked. -/
lemma take_untracked (s : Segment) : r.take options.untracked s = r.take options s := rfl

/-- A segment is read as it is where lines are tracked, and gives the same but for the line. -/
lemma scan_untracked (s : Segment) :
    r.scan options.untracked s = Prod.map id Program.withoutLines (r.scan options s) := by
  rw [scan_eq_take, scan_eq_take, take_untracked, advance_untracked]
  simp only [Prod.map, id, Program.withoutLines_append, withoutLines_take]

end Reader

/-! ## Passes -/

/-- What compiling produces, without the instructions that tell lines. -/
def Compiled.withoutLines (c : Compiled) : Compiled := { c with program := c.program.withoutLines }

/-- **The template** with lines not tracked. -/
def Template.untracked (t : Template) : Template := { t with options := t.options.untracked }

namespace Pass

/-- What a pass has gathered, without the instructions that tell lines. -/
def withoutLines (p : Pass) : Pass := { p with program := p.program.withoutLines }

/-- More instructions, none of which tells a line. -/
lemma emit_withoutLines {program : Program} (h : program.withoutLines = program) (p : Pass) :
    p.withoutLines.emit program = (p.emit program).withoutLines := by
  simp only [emit, withoutLines, Program.withoutLines_append, h]

/-- One more dependency. -/
lemma depend_withoutLines (p : Pass) (path : Path) :
    p.withoutLines.depend path = (p.depend path).withoutLines := rfl

/-- An included template. -/
lemma splice_withoutLines (p : Pass) (params : List String) (isolated : Bool) (path : Path)
    (inner : Compiled) :
    p.withoutLines.splice params isolated path inner.withoutLines =
      (p.splice params isolated path inner).withoutLines := by
  have hscope (entry : ScopeEntry) :
      Program.withoutLines (.enterScope entry :: inner.program ++ [.exitScope]) =
        .enterScope entry :: inner.program.withoutLines ++ [.exitScope] := by
    rw [List.cons_append, Program.withoutLines_cons rfl, Program.withoutLines_append]
    rfl
  simp only [splice, withoutLines, Compiled.withoutLines, List.append_assoc,
    Program.withoutLines_append, hscope]

/-- A segment that is no directive. -/
lemma scan_untracked (options : Options) (p : Pass) (s : Segment) :
    p.withoutLines.scan options.untracked s = (p.scan options s).withoutLines := by
  simp only [scan, Reader.scan_untracked, withoutLines, Prod.map, id, emit,
    Program.withoutLines_append]

/-- The lines of a directive. -/
lemma advance_untracked (options : Options) (p : Pass) (s : Segment) :
    p.withoutLines.advance options.untracked s = (p.advance options s).withoutLines := by
  simp only [advance, Reader.advance_untracked, withoutLines, Prod.map, id, emit,
    Program.withoutLines_append]

section Follow

variable {follow follow' : Directive → Pass → Except CompileError Pass}
  (hfollow : ∀ d p, follow' d p.withoutLines = (follow d p).map withoutLines)

include hfollow

/-- One segment, if directives are followed alike. -/
lemma segment_untracked (options : Options) (before : Option Tag) (p : Pass) (s : Segment) :
    p.withoutLines.segment options.untracked follow' before s =
      (p.segment options follow before s).map withoutLines := by
  unfold segment
  cases directive? before s with
  | some d =>
    dsimp only
    rw [hfollow]
    cases follow d p with
    | error e => rfl
    | ok q => exact congrArg Except.ok (q.advance_untracked options s)
  | none => exact congrArg Except.ok (p.scan_untracked options s)

/-- **A pass over all segments gathers the same but for the lines,** or fails alike, if directives
are followed alike. -/
theorem segments_untracked (t : Template) (before : Option Tag) (p : Pass)
    (segments : List Segment) :
    p.withoutLines.segments t.untracked follow' before segments =
      (p.segments t follow before segments).map withoutLines := by
  induction segments generalizing before p with
  | nil => rfl
  | cons s behind ih =>
    rw [Pass.segments, Pass.segments]
    split
    · rfl
    · show (p.withoutLines.segment t.options.untracked follow' before s >>= _) = _
      rw [segment_untracked hfollow]
      cases p.segment t.options follow before s with
      | error e => rfl
      | ok q => exact ih s.tag q

end Follow

end Pass

/-! ## Compiling -/

namespace Template

variable {w : Workspace} {nested nested' : Nested}

/-- The marker of an asset tells no line. -/
lemma referTo_withoutLines (kind : AssetKind) (reference : String) (p : Pass) :
    referTo kind reference p.withoutLines = (referTo kind reference p).withoutLines := by
  simp only [referTo, Pass.depend, Pass.emit, Pass.withoutLines, Program.withoutLines_append]
  rfl

section Nested

variable (hnested : ∀ path component,
  nested' path component = (nested path component).map Compiled.withoutLines)

include hnested

/-- The template of a path is included alike. -/
lemma includeFile_untracked (t : Template) (reference : String) (params : Option String)
    (p : Pass) :
    t.untracked.includeFile w nested' reference params p.withoutLines =
      (t.includeFile w nested reference params p).map Pass.withoutLines := by
  have hpath : t.untracked.options.sourcePath = t.options.sourcePath := rfl
  unfold includeFile
  rw [hpath]
  cases t.options.sourcePath with
  | none => rfl
  | some current =>
    dsimp only
    rw [hnested]
    cases nested (w.library.resolve reference current) none with
    | error e => rfl
    | ok inner =>
      show Except.ok ((p.withoutLines.splice _ _ _ inner.withoutLines).depend _) = _
      rw [Pass.splice_withoutLines, Pass.depend_withoutLines]
      rfl

/-- The template of a component is included alike, and so are the remarks around it. -/
lemma includeComponent_untracked (name : String) (params : Option String) (p : Pass) :
    includeComponent w nested' name params p.withoutLines =
      (includeComponent w nested name params p).map Pass.withoutLines := by
  unfold includeComponent
  cases w.lookup name with
  | error e =>
    dsimp only
    split <;> rfl
  | ok c =>
    dsimp only
    rw [hnested]
    cases nested c.mainTemplate (some c) with
    | error e => rfl
    | ok inner =>
      show Except.ok ((((p.withoutLines.emit _).splice _ _ _ inner.withoutLines).emit _).depend _)
        = _
      rw [Pass.emit_withoutLines rfl, Pass.splice_withoutLines, Pass.emit_withoutLines rfl,
        Pass.depend_withoutLines]
      rfl

/-- Directives are followed alike, if included templates are compiled alike. -/
lemma follow_untracked (t : Template) (d : Directive) (p : Pass) :
    t.untracked.follow w nested' d p.withoutLines =
      (t.follow w nested d p).map Pass.withoutLines := by
  cases d with
  | includeFile reference params => exact includeFile_untracked hnested t reference params p
  | includeComponent name params => exact includeComponent_untracked hnested name params p
  | script reference => exact congrArg Except.ok (referTo_withoutLines .script reference p)
  | style reference => exact congrArg Except.ok (referTo_withoutLines .style reference p)
  | beginCapture params => exact congrArg Except.ok (Pass.emit_withoutLines rfl p)
  | endCapture => exact congrArg Except.ok (Pass.emit_withoutLines rfl p)

end Nested

/-- **A template compiles to the same without line tracking,** but for the instructions that tell
lines, or it fails with the same error.

**Proof sketch.** Induction on how much deeper templates may be nested.  Tracking lines changes
neither the chain of includes nor what is read, so every include comes to the same template. -/
theorem expand_untracked (w : Workspace) (t : Template) :
    expand w t.untracked = (expand w t).map Compiled.withoutLines := by
  have hnested (path : Path) (component : Option Component) :
      t.untracked.nested w path component =
        (t.nested w path component).map Compiled.withoutLines := by
    unfold nested
    show (if t.isActive path = true then _ else _) = _
    split
    · rfl
    · cases w.library.read path with
      | error reason => rfl
      | ok text =>
        show (if t.chain.length < w.depth then _ else _) = Except.map _ (if _ then _ else _)
        by_cases hdepth : t.chain.length < w.depth
        · rw [if_pos hdepth, if_pos hdepth]
          have hroom := room_including hdepth path component text
          exact expand_untracked w (t.including path component text)
        · rw [if_neg hdepth, if_neg hdepth]
          rfl
  rw [expand_eq, expand_eq, pass, pass]
  show ((Segment.splitChecked t.options.delimiter t.text).bind _).map _ = _
  cases Segment.splitChecked t.options.delimiter t.text with
  | error e => rfl
  | ok segments =>
    have hpass := Pass.segments_untracked (t.follow_untracked hnested (w := w)) t none t.start
      segments
    show (t.start.withoutLines.segments t.untracked _ none segments).map _ = _
    rw [hpass]
    show _ = ((t.start.segments t _ none segments).map t.compiled).map _
    cases t.start.segments t (t.follow w (t.nested w)) none segments <;> rfl
termination_by w.depth - t.chain.length

end Template

/-! ## Artifacts -/

/-- **The artifact** with lines not tracked. -/
def Artifact.untracked (a : Artifact) : Artifact :=
  { a with program := a.program.withoutLines, options := a.options.untracked }

/-- **A text gives the same artifact without line tracking,** but for the instructions that tell
lines, or it gives the same error. -/
theorem Workspace.artifact_untracked (w : Workspace) (options : Options) (text : String) :
    w.artifact options.untracked text = (w.artifact options text).map Artifact.untracked := by
  unfold artifact compile
  have hexpand := Template.expand_untracked w (.ofText options text)
  have htemplate : Template.ofText options.untracked text =
      (Template.ofText options text).untracked := rfl
  rw [htemplate, hexpand]
  cases Template.expand w (.ofText options text) <;> rfl

end Stencil
