import Mathlib.Data.String.Basic
import Stencil.Proofs.Template.Gathering
import Stencil.Proofs.Template.Segmentation
import Stencil.Proofs.Template.Tracking

/-!
# Markers of lines

A template whose lines are tracked has markers among its instructions, and the program of every
template that it includes stands between them with markers of its own.  Read at the level of one
template, the marker before an instruction is that of the line on which the segment of the
instruction begins.

## Main definitions

* `Stencil.Program.own` — the instructions of a program that are not those of an include.
* `Stencil.Program.Balanced` — programs in which every scope that is entered is left.
* `Stencil.Program.toldLine` — the line that the last marker tells.
* `Stencil.Template.Emits` — an instruction that is made of a segment, and what stands before it.
* `Stencil.Program.StandsIn` — the program of a template in that of one that includes it.

## Main results

* `Stencil.Template.balanced_of_expand` — a compiled program leaves the scopes that it enters.
* `Stencil.Template.Gathers.toldLine_own` — behind some segments, the last marker tells the line on
  which the next begins.
* `Stencil.Template.Active.standsIn` — a template that compiling comes to be in the middle of has
  its program in that of the first.
* `Stencil.Template.expand_marks` — the markers of a program tell the lines of its segments.

## Design

What an include puts into a program is entered and left again, so what stands behind it is at the
level of the template as before.  `Balanced` is what an induction needs of it.
-/

set_option relaxedAutoImplicit false
set_option autoImplicit false

namespace Stencil

/-! ## Places in texts -/

/-- A text is cut at the length of its first part. -/
lemma Text.splitAtByte_append (a b : List Char) :
    splitAtByte (String.utf8Len a) (a ++ b) = (a, b) := by
  induction a with
  | nil => cases b <;> rfl
  | cons c a ih =>
    have hpos := c.utf8Size_pos
    obtain ⟨n, hn⟩ : ∃ n, String.utf8Len (c :: a) = n + 1 :=
      ⟨String.utf8Len a + c.utf8Size - 1, by rw [String.utf8Len_cons]; omega⟩
    have hrest : n + 1 - c.utf8Size = String.utf8Len a := by
      rw [← hn, String.utf8Len_cons]
      omega
    rw [hn, List.cons_append, splitAtByte, hrest, ih]

namespace Segment

/-- The length of segments is that of their text. -/
lemma size_eq_utf8Len (segments : List Segment) :
    size segments = String.utf8Len (chars segments) := by
  induction segments with
  | nil => rfl
  | cons s rest ih =>
    rw [chars_cons, String.utf8Len_append, ← ih, ← String.utf8ByteSize_ofList, String.ofList_toList]
    rfl

/-- The line behind some segments of a text is counted in what stands before the next. -/
lemma lineBehind_eq_countNewlines {d : Char} {text : String} {front rest : List Segment}
    {s : Segment} (h : split d text = front ++ s :: rest) :
    lineBehind front = 1 + Text.countNewlines (Text.splitAtByte s.offset text.toList).1 := by
  have hcut := segmentation_split d text
  have htext : text.toList = chars front ++ chars (s :: rest) := by
    rw [← chars_append, ← h, ← toList_join, hcut.join]
  rw [hcut.offset h, size_eq_utf8Len, htext, Text.splitAtByte_append]
  rfl

end Segment

/-! ## Levels of a program -/

namespace Instruction

/-- How many scopes are open behind an instruction, if some are before it. -/
def depthBehind (depth : Nat) : Instruction → Nat
  | enterScope _ => depth + 1
  | exitScope => depth - 1
  | _ => depth

/-- Whether an instruction enters or leaves a scope. -/
def isScope : Instruction → Bool
  | enterScope _ | exitScope => true
  | _ => false

/-- The line that an instruction tells, if it is a marker. -/
def line? : Instruction → Option Nat
  | .step (.line number) => some number
  | _ => none

/-- What is no marker tells no line. -/
lemma line?_eq_none {i : Instruction} (h : i.isLine = false) : i.line? = none := by
  unfold line?
  split
  · cases h
  · rfl

/-- An instruction without scopes leaves their number as it is. -/
lemma depthBehind_of_isScope {i : Instruction} (h : i.isScope = false) (depth : Nat) :
    i.depthBehind depth = depth := by
  cases i <;> first | rfl | cases h

end Instruction

namespace Program

/-- **The instructions of a program that are its own,** inside some scopes that includes have
opened: no scope is open before or behind them.  The entry and the exit of a scope are the
including template's. -/
def own (depth : Nat) : Program → Program
  | [] => []
  | i :: rest =>
    (if depth = 0 ∨ i.depthBehind depth = 0 then [i] else []) ++ own (i.depthBehind depth) rest

/-- **A program that leaves every scope that it enters,** and no other. -/
inductive Balanced : Program → Prop
  /-- Nothing. -/
  | nil : Balanced []
  /-- An instruction without scopes. -/
  | single {i : Instruction} : i.isScope = false → Balanced [i]
  /-- Programs one behind the other. -/
  | append {p q : Program} : Balanced p → Balanced q → Balanced (p ++ q)
  /-- The scope of an include. -/
  | scope (entry : ScopeEntry) {body : Program} :
    Balanced body → Balanced (.enterScope entry :: body ++ [.exitScope])

/-- Instructions without scopes. -/
lemma Balanced.of_forall {p : Program} (h : ∀ i ∈ p, i.isScope = false) : Balanced p := by
  induction p with
  | nil => exact .nil
  | cons i rest ih =>
    exact .append (.single (h i List.mem_cons_self))
      (ih fun j hj => h j (List.mem_cons_of_mem _ hj))

/-- Behind a balanced program the level is as before it. -/
lemma Balanced.own_append {p : Program} (h : Balanced p) (depth : Nat) (q : Program) :
    own depth (p ++ q) = own depth p ++ own depth q := by
  induction h generalizing depth q with
  | nil => rfl
  | single hi => simp [own, Instruction.depthBehind_of_isScope hi]
  | append _ _ ihp ihq => rw [List.append_assoc, ihp, ihq, ihp, List.append_assoc]
  | scope entry _ ih => simp [own, Instruction.depthBehind, ih]

/-- Inside a scope, nothing of a balanced program is the including template's. -/
lemma Balanced.own_succ {p : Program} (h : Balanced p) (depth : Nat) : own (depth + 1) p = [] := by
  induction h generalizing depth with
  | nil => rfl
  | single hi => simp [own, Instruction.depthBehind_of_isScope hi]
  | append hp _ ihp ihq => rw [hp.own_append, ihp, ihq, List.append_nil]
  | scope entry hbody ih => simp [own, Instruction.depthBehind, hbody.own_append, ih]

/-- Of an include, the entry and the exit of its scope are the including template's. -/
lemma Balanced.own_scope {body : Program} (h : Balanced body) (entry : ScopeEntry) :
    own 0 (.enterScope entry :: body ++ [.exitScope]) = [.enterScope entry, .exitScope] := by
  simp [own, Instruction.depthBehind, h.own_append, h.own_succ]

/-- Instructions without scopes are the program's own. -/
lemma own_of_forall {p : Program} (h : ∀ i ∈ p, i.isScope = false) : own 0 p = p := by
  induction p with
  | nil => rfl
  | cons i rest ih =>
    rw [own, Instruction.depthBehind_of_isScope (h i List.mem_cons_self),
      ih fun j hj => h j (List.mem_cons_of_mem _ hj)]
    rfl

/-- **The line that the last marker tells;** without a marker it is the first. -/
def toldLine (program : Program) : Nat := (program.filterMap Instruction.line?).getLast?.getD 1

/-- Instructions that are no markers tell no other line. -/
lemma toldLine_append {p q : Program} (h : ∀ i ∈ q, i.isLine = false) :
    toldLine (p ++ q) = toldLine p := by
  have hq : q.filterMap Instruction.line? = [] :=
    List.filterMap_eq_nil_iff.2 fun i hi => Instruction.line?_eq_none (h i hi)
  rw [toldLine, List.filterMap_append, hq, List.append_nil]
  rfl

/-- A marker tells the line itself. -/
lemma toldLine_concat_line (p : Program) (number : Nat) :
    toldLine (p ++ [.line number]) = number := by
  simp [toldLine, Instruction.line?]

end Program

/-! ## Reading -/

namespace Reader

variable (options : Options) (r : Reader)

/-- Every instruction that is made of a segment has a property if those have it that put out a
text, and those that are made of the code of a tag.

**Proof sketch.** The cases of what the reader does: it scans a text in the mode it is in, or goes
from one mode to the next at a tag. -/
theorem forall_take {P : Instruction → Prop} (happend : ∀ text, P (.append text))
    (hexec : ∀ code, P (.exec (String.ofList (closeLineComment code))))
    (hescaped : ∀ code, P (.appendEscaped (String.ofList (outputExpression code))))
    (hraw : ∀ code, P (.appendRaw (String.ofList (outputExpression code)))) (s : Segment) :
    ∀ i ∈ (r.take options s).2, P i := by
  have houtput (text : List Char) : ∀ i ∈ (r.output options text).2, P i := by
    unfold output
    dsimp only
    generalize (if r.truncate then _ else _ : List Char) = kept
    split
    · exact List.forall_mem_nil _
    · exact List.forall_mem_singleton.2 (happend _)
  unfold take
  cases s.tag with
  | none =>
    dsimp only
    unfold scanText
    split
    · exact houtput _
    · exact houtput _
    · exact List.forall_mem_singleton.2 (hexec _)
    · exact List.forall_mem_singleton.2 (hescaped _)
    · exact List.forall_mem_singleton.2 (hraw _)
    · exact List.forall_mem_nil _
  | some t =>
    dsimp only
    unfold scanTag
    split
    · dsimp only
      split
      · exact houtput _
      · exact List.forall_mem_nil _
    · dsimp only
      split
      · exact List.forall_mem_singleton.2 (happend _)
      · exact List.forall_mem_nil _

/-- A segment that is read enters no scope. -/
lemma isScope_take (s : Segment) : ∀ i ∈ (r.take options s).2, i.isScope = false :=
  forall_take options r (fun _ => rfl) (fun _ => rfl) (fun _ => rfl) (fun _ => rfl) s

/-- The lines of a segment that were passed are marked. -/
lemma advance_eq_marker {front : List Segment} (h : r.line = Segment.lineBehind front)
    (s : Segment) : (r.advance options s.newlines).2 = s.marker options front := by
  rw [advance, Segment.marker, Segment.lineBehind_append, h]

/-- A segment that is read gives no marker before its lines are passed. -/
lemma isLine_take (s : Segment) : ∀ i ∈ (r.take options s).2, i.isLine = false := by
  have h := withoutLines_take options r s
  rw [Program.withoutLines, List.filter_eq_self] at h
  simpa using h

end Reader

namespace Segment

/-- The marker of the line behind a segment enters no scope. -/
lemma isScope_marker (options : Options) (front : List Segment) (s : Segment) :
    ∀ i ∈ s.marker options front, i.isScope = false := by
  unfold marker
  split <;> simp [Instruction.isScope]

/-- It is nothing but a marker. -/
lemma isLine_marker (options : Options) (front : List Segment) (s : Segment) :
    ∀ i ∈ s.marker options front, i.isLine = true := by
  unfold marker
  split <;> simp [Instruction.isLine]

end Segment

/-! ## What is made of a segment -/

namespace Template

variable {w : Workspace} {t : Template} {c : Compiled} {front rest : List Segment} {s : Segment}
  {p q : Pass} {d : Directive}

/-- Following a directive leaves the reader as it is. -/
lemma Follows.reader_eq (h : Follows w t p d q) : q.reader = p.reader := by
  cases h <;> rfl

/-- What a directive adds to a program is balanced, and no marker of the template's own.

**Proof sketch.** The cases of the directive.  An include adds a scope with a balanced program in
it, whose markers are not those of the template itself; what else is added is neither a scope nor a
marker. -/
lemma Follows.exists_given
    (hnested : ∀ path component inner, t.nested w path component = .ok inner →
      inner.program.Balanced) (h : Follows w t p d q) :
    ∃ given : Program, q.program = p.program ++ given ∧ given.Balanced ∧
      ∀ i ∈ given.own 0, i.isLine = false := by
  cases h with
  | @included _ path component inner params isolated opening closing htarget hinner =>
    have htexts (texts : List String) :
        ∀ i ∈ texts.map Instruction.append, i.isScope = false ∧ i.isLine = false := by
      simp [Instruction.isScope, Instruction.isLine]
    have hbody := hnested path component inner hinner
    have hopening := Program.Balanced.of_forall fun i hi => (htexts opening i hi).1
    have hclosing := Program.Balanced.of_forall fun i hi => (htexts closing i hi).1
    refine ⟨opening.map .append ++ ((_ :: inner.program ++ [.exitScope]) ++
      closing.map .append), ?_, hopening.append ((Program.Balanced.scope
        ⟨params, isolated, some ⟨path.text, inner.text⟩⟩ hbody).append hclosing), ?_⟩
    · simp [Pass.depend, Pass.emit, Pass.splice]
    · rw [hopening.own_append, (Program.Balanced.scope _ hbody).own_append, hbody.own_scope,
        Program.own_of_forall fun i hi => (htexts opening i hi).1,
        Program.own_of_forall fun i hi => (htexts closing i hi).1, List.forall_mem_append,
        List.forall_mem_append]
      exact ⟨fun i hi => (htexts opening i hi).2, by simp [Instruction.isLine],
        fun i hi => (htexts closing i hi).2⟩
  | skipped => exact ⟨[], (List.append_nil _).symm, .nil, by simp [Program.own]⟩
  | refer | beginCapture | endCapture =>
    exact ⟨[_], rfl, .single rfl, by simp [Program.own, Instruction.isLine]⟩

/-- The line of a pass is that of the next segment. -/
lemma Gathers.line (h : Gathers w t front p) : p.reader.line = Segment.lineBehind front := by
  induction front using List.reverseRecOn generalizing p with
  | nil =>
    cases h.eq_start
    rfl
  | append_singleton front s ih =>
    obtain ⟨r, hr, hsegment⟩ := h.exists_segment
    rw [Segment.lineBehind_append, ← ih hr]
    rcases hsegment with ⟨-, rfl⟩ | ⟨d, q, -, hfollow, rfl⟩
    · show (r.reader.scan t.options s).1.line = _
      rw [Reader.scan_eq_take]
      show (r.reader.take t.options s).1.line + s.newlines = _
      rw [Reader.line_take]
    · show q.reader.line + s.newlines = _
      rw [(Follows.of_follow hfollow).reader_eq]

/-- What is made of a segment is balanced and no marker of the template's own, and the marker of
the line behind it follows.

**Proof sketch.** A segment that is read makes neither scopes nor markers; a directive makes what
`Follows.exists_given` says.  Behind either, the marker of its lines is put out. -/
lemma Gathers.exists_given
    (hnested : ∀ path component inner, t.nested w path component = .ok inner →
      inner.program.Balanced) (h : Gathers w t (front ++ [s]) q) :
    ∃ (p : Pass) (given : Program), Gathers w t front p ∧
      q.program = p.program ++ (given ++ s.marker t.options front) ∧ given.Balanced ∧
      ∀ i ∈ given.own 0, i.isLine = false := by
  obtain ⟨p, hp, hsegment⟩ := h.exists_segment
  rcases hsegment with ⟨-, rfl⟩ | ⟨d, r, -, hfollow, rfl⟩
  · have hscope := Reader.isScope_take t.options p.reader s
    refine ⟨p, (p.reader.take t.options s).2, hp, ?_, .of_forall hscope, ?_⟩
    · show p.program ++ (p.reader.scan t.options s).2 = _
      rw [Reader.scan_eq_take, Reader.advance_eq_marker _ _ (Reader.line_take _ s ▸ hp.line)]
    · rw [Program.own_of_forall hscope]
      exact Reader.isLine_take t.options p.reader s
  · have hfollows := Follows.of_follow hfollow
    obtain ⟨given, hgiven, hbalanced, hlines⟩ := hfollows.exists_given hnested
    refine ⟨p, given, hp, ?_, hbalanced, hlines⟩
    show r.program ++ (r.reader.advance t.options s.newlines).2 = _
    rw [hgiven, List.append_assoc,
      Reader.advance_eq_marker _ _ (hfollows.reader_eq ▸ hp.line)]

/-- What a pass has gathered is balanced, if what is included is. -/
lemma Gathers.balanced_of
    (hnested : ∀ path component inner, t.nested w path component = .ok inner →
      inner.program.Balanced) (h : Gathers w t front p) : p.program.Balanced := by
  induction front using List.reverseRecOn generalizing p with
  | nil =>
    cases h.eq_start
    exact .nil
  | append_singleton front s ih =>
    obtain ⟨r, given, hr, hprogram, hgiven, -⟩ := h.exists_given hnested
    rw [hprogram]
    exact (ih hr).append (hgiven.append (.of_forall (s.isScope_marker _ _)))

/-- **A compiled program leaves the scopes that it enters.** -/
theorem balanced_of_expand (h : expand w t = .ok c) : c.program.Balanced := by
  refine expand_induction (motive := fun _ c => c.program.Balanced) (fun t c ih h => ?_) h
  obtain ⟨p, hp, rfl⟩ := gathers_of_expand h
  refine hp.balanced_of fun path component inner hinner => ?_
  obtain ⟨-, hdepth, text, hread, hexpand⟩ := exists_of_nested hinner
  exact ih path component text inner hread hexpand hdepth

/-- An included program leaves the scopes that it enters. -/
lemma nested_balanced {path : Path} {component : Option Component} {inner : Compiled}
    (h : t.nested w path component = .ok inner) : inner.program.Balanced := by
  obtain ⟨-, -, text, -, hexpand⟩ := exists_of_nested h
  exact balanced_of_expand hexpand

namespace Gathers

/-- What a pass has gathered leaves the scopes that it enters. -/
lemma balanced (h : Gathers w t front p) : p.program.Balanced :=
  h.balanced_of fun _ _ _ => nested_balanced

/-- What has been gathered stays at the front of what is gathered behind it. -/
lemma program_begins (hp : Gathers w t front p) (hq : Gathers w t (front ++ rest) q) :
    p.program <+: q.program := by
  induction rest using List.reverseRecOn generalizing q with
  | nil =>
    rw [List.append_nil] at hq
    exact hp.unique hq ▸ List.prefix_rfl
  | append_singleton rest s ih =>
    rw [← List.append_assoc] at hq
    obtain ⟨r, given, hr, hprogram, -, -⟩ := hq.exists_given fun _ _ _ => nested_balanced
    rw [hprogram]
    exact (ih hr).trans (List.prefix_append _ _)

/-- So do the instructions of the template's own. -/
lemma own_begins (hp : Gathers w t front p) (hq : Gathers w t (front ++ rest) q) :
    p.program.own 0 <+: q.program.own 0 := by
  obtain ⟨behind, hbehind⟩ := hp.program_begins hq
  rw [← hbehind, hp.balanced.own_append]
  exact List.prefix_append _ _

/-- What a segment adds at the level of the template: no marker, and then that of the line
behind it. -/
theorem exists_own (h : Gathers w t (front ++ [s]) q) :
    ∃ (p : Pass) (given : Program), Gathers w t front p ∧
      q.program.own 0 = p.program.own 0 ++ (given ++ s.marker t.options front) ∧
      ∀ i ∈ given, i.isLine = false := by
  obtain ⟨p, given, hp, hprogram, hgiven, hlines⟩ :=
    h.exists_given fun _ _ _ => nested_balanced
  refine ⟨p, given.own 0, hp, ?_, hlines⟩
  rw [hprogram, hp.balanced.own_append, hgiven.own_append,
    Program.own_of_forall (s.isScope_marker _ _)]

/-- **Behind some segments, the last marker tells the line on which the next begins.**

**Proof sketch.** Induction on the segments.  One that ends no line tells none, and any other is
followed by the marker of the line behind it. -/
theorem toldLine_own (hdiagnostics : t.options.diagnostics = true) (h : Gathers w t front p) :
    (p.program.own 0).toldLine = Segment.lineBehind front := by
  induction front using List.reverseRecOn generalizing p with
  | nil =>
    cases h.eq_start
    rfl
  | append_singleton front s ih =>
    obtain ⟨r, given, hr, hown, hlines⟩ := h.exists_own
    rw [hown, Segment.marker, hdiagnostics, Bool.and_true]
    by_cases hnewlines : s.newlines = 0
    · simp only [hnewlines, ne_eq, not_true_eq_false, decide_false, Bool.false_eq_true, if_false,
        List.append_nil]
      rw [Program.toldLine_append hlines, ih hr, Segment.lineBehind_append, hnewlines, Nat.add_zero]
    · simp only [hnewlines, ne_eq, not_false_eq_true, decide_true, if_true]
      rw [← List.append_assoc, Program.toldLine_concat_line]

/-- Every marker of a template's own tells a line that the pass has come to. -/
theorem line_le_lineBehind (h : Gathers w t front p) {number : Nat}
    (hline : .line number ∈ p.program.own 0) : 1 ≤ number ∧ number ≤ Segment.lineBehind front := by
  induction front using List.reverseRecOn generalizing p with
  | nil =>
    cases h.eq_start
    cases hline
  | append_singleton front s ih =>
    obtain ⟨r, given, hr, hown, hlines⟩ := h.exists_own
    rw [hown, List.mem_append, List.mem_append] at hline
    rcases hline with hline | hline | hline
    · obtain ⟨hpos, hle⟩ := ih hr hline
      rw [Segment.lineBehind_append]
      exact ⟨hpos, hle.trans (Nat.le_add_right _ _)⟩
    · cases hlines _ hline
    · unfold Segment.marker at hline
      split at hline
      · cases List.mem_singleton.1 hline
        exact ⟨Nat.le_add_right 1 _, Nat.le_refl _⟩
      · cases hline

end Gathers

/-! ## Instructions and their segments -/

/-- **An instruction of the template's own that is made of a segment** behind others, with those of
the template's own before it. -/
def Emits (w : Workspace) (t : Template) (front : List Segment) (s : Segment) (before : Program)
    (i : Instruction) : Prop :=
  ∃ p q, Gathers w t front p ∧ Gathers w t (front ++ [s]) q ∧ p.program.own 0 <+: before ∧
    before ++ [i] <+: q.program.own 0

/-- Every instruction of the template's own is made of one of its segments. -/
lemma Gathers.exists_emits {segments : List Segment} (h : Gathers w t segments p)
    {before : Program} {i : Instruction} (hbegins : before ++ [i] <+: p.program.own 0) :
    ∃ front s rest, segments = front ++ s :: rest ∧ Emits w t front s before i := by
  induction segments using List.reverseRecOn generalizing p with
  | nil =>
    cases h.eq_start
    simp [Program.own, show t.start.program = [] from rfl] at hbegins
  | append_singleton front s ih =>
    obtain ⟨r, given, hr, hown, -⟩ := h.exists_own
    have hold : r.program.own 0 <+: p.program.own 0 := hr.own_begins h
    -- The instruction has been there before the segment, or comes behind all that was there.
    rcases Nat.lt_or_ge before.length (r.program.own 0).length with hlt | hge
    · obtain ⟨front', s', rest, rfl, hemits⟩ :=
        ih hr (List.prefix_of_prefix_length_le hbegins hold (by simpa [Nat.succ_le_iff] using hlt))
      exact ⟨front', s', rest ++ [s], by simp, hemits⟩
    · exact ⟨front, s, [], rfl, r, p, hr, h,
        List.prefix_of_prefix_length_le hold ((List.prefix_append _ _).trans hbegins) hge, hbegins⟩

/-- An instruction stands behind the marker of its line, if it is no marker itself.

**Proof sketch.** What has been put out before is what the segments before made, with the marker of
the line behind them, and a part of what the segment makes itself, in which there are no markers. -/
theorem Emits.toldLine (hdiagnostics : t.options.diagnostics = true) {before : Program}
    {i : Instruction} (h : Emits w t front s before i) (hi : i.isLine = false) :
    before.toldLine = Segment.lineBehind front := by
  obtain ⟨p, q, hp, hq, ⟨added, rfl⟩, hbegins⟩ := h
  obtain ⟨r, given, hr, hown, hlines⟩ := hq.exists_own
  cases hp.unique hr
  rw [hown, List.append_assoc, List.prefix_append_right_inj] at hbegins
  -- Behind what is made of the segment there are markers alone, and the instruction is none.
  have hadded : ∀ j ∈ added, j.isLine = false := by
    obtain ⟨behind, hbehind⟩ := hbegins
    rcases List.append_eq_append_iff.1 hbehind with
      ⟨middle, hgiven, -⟩ | ⟨middle, hgiven, hmarker⟩
    · exact fun j hj => hlines j (by rw [hgiven]; simp [hj])
    · rcases List.eq_nil_or_concat middle with rfl | ⟨middle, last, rfl⟩
      · exact fun j hj => hlines j (by rw [← List.append_nil given, ← hgiven]; simp [hj])
      · rw [List.concat_eq_append, ← List.append_assoc] at hgiven
        cases (List.append_inj' hgiven rfl).2
        have hmem : i ∈ s.marker t.options front := by rw [hmarker]; simp
        rw [s.isLine_marker _ _ i hmem] at hi
        cases hi
  rw [Program.toldLine_append hadded, hp.toldLine_own hdiagnostics]

end Template

/-! ## Programs in programs -/

/-- **A program that stands in another:** it is that program, or what stands in the scope of an
include of a template in it. -/
inductive Program.StandsIn (inner : Program) (o : Origin) : Program → Prop
  /-- The whole program. -/
  | whole : StandsIn inner o inner
  /-- The scope of an include. -/
  | scope (outer rest : Program) {entry : ScopeEntry} :
    entry.origin = some o →
    StandsIn inner o (outer ++ .enterScope entry :: inner ++ .exitScope :: rest)

/-- What stands in the scope of an include stands in all that this stands in. -/
lemma Program.StandsIn.enter {inner program : Program} {o o' : Origin} {outer rest : Program}
    {entry : ScopeEntry}
    (h : StandsIn (outer ++ .enterScope entry :: inner ++ .exitScope :: rest) o program)
    (hentry : entry.origin = some o') : StandsIn inner o' program := by
  cases h with
  | whole => exact .scope outer rest hentry
  | @scope outer' rest' entry' _ =>
    have hshift : outer' ++ .enterScope entry' :: (outer ++ .enterScope entry :: inner ++
        .exitScope :: rest) ++ .exitScope :: rest' =
        (outer' ++ .enterScope entry' :: outer) ++ .enterScope entry :: inner ++
          .exitScope :: (rest ++ .exitScope :: rest') := by
      simp
    rw [hshift]
    exact .scope _ _ hentry

namespace Template

variable {w : Workspace} {root t inner : Template} {c : Compiled} {entered : List Path.Normal}
  {path : Path} {d : Directive} {p q : Pass}

/-- A directive that compiling comes to is followed, if the template compiles. -/
lemma ComesTo.exists_follows (h : t.ComesTo w d p) (hc : expand w t = .ok c) :
    ∃ q, Follows w t p d q ∧ q.program <+: c.program := by
  obtain ⟨segments, hsegments, hcomes⟩ := h
  obtain ⟨final, hfinal, rfl⟩ := gathers_of_expand hc
  obtain rfl : t.segments = segments := by
    unfold Segment.splitChecked at hsegments
    split at hsegments <;> cases hsegments
    rfl
  obtain ⟨front, s, rest, hsplit, hp, hd⟩ := Gathers.start.exists_of_comesTo hcomes
  rw [List.nil_append] at hp hd
  rw [hsplit, List.append_cons] at hfinal
  obtain ⟨q, hq⟩ := hfinal.exists_of_append
  obtain ⟨p', hp', hsegment⟩ := hq.exists_segment
  cases hp.unique hp'
  rw [hd] at hsegment
  rcases hsegment with ⟨hnone, -⟩ | ⟨d', r, hd', hfollow, rfl⟩
  · cases hnone
  · cases hd'
    exact ⟨r, .of_follow hfollow, (List.prefix_append _ _).trans (hq.program_begins hfinal)⟩

/-- An include that is followed puts the included program into a scope. -/
lemma Follows.exists_scope {component : Option Component} (h : Follows w t p d q)
    (htarget : t.target? w d = some (path, component)) :
    ∃ (c' : Compiled) (outer rest : Program) (entry : ScopeEntry),
      t.nested w path component = .ok c' ∧
      q.program = outer ++ .enterScope entry :: c'.program ++ .exitScope :: rest ∧
      entry.origin = some ⟨path.text, c'.text⟩ := by
  cases h with
  | @included _ path' component' c' params isolated opening closing htarget' hnested =>
    rw [htarget] at htarget'
    cases htarget'
    refine ⟨c', p.program ++ opening.map .append, closing.map .append,
      ⟨params, isolated, some ⟨path.text, c'.text⟩⟩, hnested, ?_, rfl⟩
    simp [Pass.depend, Pass.emit, Pass.splice]
  | skipped params hlookup _ => simp [target?, hlookup] at htarget
  | refer kind => cases kind <;> cases htarget
  | beginCapture | endCapture => cases htarget

/-- A template that is entered stands in the one that includes it. -/
theorem Enters.exists_scope (h : Enters w t path inner) (hc : expand w t = .ok c) :
    ∃ (c' : Compiled) (outer rest : Program) (entry : ScopeEntry), expand w inner = .ok c' ∧
      c.program = outer ++ .enterScope entry :: c'.program ++ .exitScope :: rest ∧
      entry.origin = some inner.origin := by
  obtain ⟨component, text, ⟨d, p, hcomes, htarget⟩, -, hread, -, rfl⟩ := h
  obtain ⟨q, hfollows, behind, hbehind⟩ := hcomes.exists_follows hc
  obtain ⟨c', outer, rest, entry, hnested, hprogram, horigin⟩ := hfollows.exists_scope htarget
  obtain ⟨-, -, text', hread', hexpand⟩ := exists_of_nested hnested
  rw [hread] at hread'
  cases hread'
  refine ⟨c', outer, rest ++ behind, entry, hexpand, ?_, ?_⟩
  · rw [← hbehind, hprogram]
    simp
  · rw [horigin, text_of_expand hexpand]
    rfl

/-- **A template that compiling comes to be in the middle of** compiles, and has its program in that
of the first. -/
theorem Active.standsIn (h : Active w root entered t) (hc : expand w root = .ok c) :
    ∃ c', expand w t = .ok c' ∧ c'.program.StandsIn t.origin c.program := by
  induction h with
  | root => exact ⟨c, hc, .whole⟩
  | enter _ henters ih =>
    obtain ⟨c', hc', hstands⟩ := ih
    obtain ⟨c'', outer, rest, entry, hc'', hprogram, horigin⟩ := henters.exists_scope hc'
    exact ⟨c'', hc'', (hprogram ▸ hstands).enter horigin⟩

/-- The options of an active template track lines as those of the first do. -/
lemma Active.diagnostics_eq (h : Active w root entered t) :
    t.options.diagnostics = root.options.diagnostics := by
  induction h with
  | root => rfl
  | enter _ henters ih =>
    obtain ⟨component, text, -, -, -, -, rfl⟩ := henters
    exact ih

/-! ## What the markers tell -/

/-- **Markers tell the lines of a template.**  Let a template compile with its lines tracked, and
take the same or any other that is entered on the way.  Its program stands in the compiled program.
Each instruction at the level of the template is made of one of its segments.  If it is no marker,
the last marker before it at that level tells the line on which the segment begins, or there is none
and the line is the first.  So every marker at that level tells one of the lines of the template.

**Proof sketch.** Behind some segments the last marker tells the line on which the next begins
(`Gathers.toldLine_own`), and what is made of that one has no marker before it. -/
theorem expand_marks (hdiagnostics : root.options.diagnostics = true)
    (hc : expand w root = .ok c) (hactive : Active w root entered t) :
    ∃ c', expand w t = .ok c' ∧ c'.program.StandsIn t.origin c.program ∧
      (∀ before i, before ++ [i] <+: c'.program.own 0 →
        ∃ front s rest, t.segments = front ++ s :: rest ∧ Emits w t front s before i) ∧
      (∀ front s rest before i, t.segments = front ++ s :: rest → Emits w t front s before i →
        before ++ [i] <+: c'.program.own 0 ∧
        (i.isLine = false → before.toldLine =
          1 + Text.countNewlines (Text.splitAtByte s.offset t.text.toList).1)) ∧
      ∀ number, .line number ∈ c'.program.own 0 →
        1 ≤ number ∧ number ≤ (Text.lines t.text.toList).length := by
  have hlines : t.options.diagnostics = true := hactive.diagnostics_eq.trans hdiagnostics
  obtain ⟨c', hc', hstands⟩ := hactive.standsIn hc
  obtain ⟨p, hp, rfl⟩ := gathers_of_expand hc'
  refine ⟨t.compiled p, hc', hstands, fun before i hbegins => hp.exists_emits hbegins,
    fun front s rest before i hsplit hemits => ⟨?_, fun hi => ?_⟩, fun number hmem => ?_⟩
  · obtain ⟨_, q, -, hq, -, hbegins⟩ := hemits
    rw [hsplit, List.append_cons] at hp
    exact hbegins.trans (hq.own_begins hp)
  · rw [hemits.toldLine hlines hi, Segment.lineBehind_eq_countNewlines hsplit]
  · have hbehind : Segment.lineBehind t.segments = (Text.lines t.text.toList).length := by
      have htext : Segment.chars t.segments = t.text.toList := by
        rw [← Segment.toList_join]
        exact congrArg String.toList (Segment.join_split _ _)
      rw [Text.length_lines, ← htext, Nat.add_comm]
      rfl
    rw [← hbehind]
    exact hp.line_le_lineBehind hmem

/-- A template of three lines that includes another of three. -/
theorem expand_marks_include :
    let templates := Templates.ofList [(⟨"/b.ejs"⟩, "<%\ny %>\nz")]
    let w : Workspace := { library := templates.library, lookup := Registry.lookup {} }
    let t := Template.ofText { sourcePath := some ⟨"/a.ejs"⟩ } "a\n<% include b %>b\n<%= x %>"
    let own : Program := [.append "a\n", .line 2,
      .enterScope ⟨[], false, some ⟨"/b.ejs", "<%\ny %>\nz"⟩⟩, .exitScope, .append "b\n", .line 3,
      .appendEscaped "x"]
    t.options.diagnostics = true ∧ ∃ c, expand w t = .ok c ∧ c.program.own 0 = own ∧
      ∃ front s rest, t.segments = front ++ s :: rest ∧
        Emits w t front s (own.take 4) (.append "b\n") ∧
        Program.toldLine (own.take 4) =
          1 + Text.countNewlines (Text.splitAtByte s.offset t.text.toList).1 := by
  intro templates w t own
  obtain ⟨c, hc, hown⟩ : ∃ c, expand w t = .ok c ∧ c.program.own 0 = own :=
    exists_of_map_expand (by decide +kernel)
  obtain ⟨c', hc', -, hemits, hmarks, -⟩ := expand_marks rfl hc .root
  cases hc.symm.trans hc'
  obtain ⟨front, s, rest, hsplit, hs⟩ :=
    hemits (own.take 4) (.append "b\n") (by rw [hown]; decide)
  exact ⟨rfl, c, hc, hown, front, s, rest, hsplit, hs, (hmarks front s rest _ _ hsplit hs).2 rfl⟩

end Template

end Stencil
