import Stencil.Artifact
import Stencil.Proofs.Block.Sites
import Stencil.Proofs.Template.Cycle

/-!
# Places of code in compiled templates

Compiling marks the lines of a template as it comes to them.  Read as it is written, with scopes
entered and left, a compiled program has all its code behind the marker of the line on which the
segment of the code begins, in the scope of the template that the segment belongs to.

## Main definitions

* `Stencil.Program.Placed` — a program whose code stands at places of some kind.
* `Stencil.Segment.codes` — the code that may be made of a segment.
* `Stencil.Template.Writes`, `Stencil.Template.Holds` — code of a template, and its place.

## Main results

* `Stencil.Reader.placed_scan`, `Stencil.Pass.goesOn_follow`, `Stencil.Pass.goesOn_segments` — what
  is made of a segment, of a directive and of all segments stands in its place.
* `Stencil.Template.placed_expand` — the code of a compiled template stands where the template, or
  one that is entered from it, has written it.
-/

set_option relaxedAutoImplicit false
set_option autoImplicit false

namespace Stencil

/-! ## Programs -/

section Programs

variable {classify : String → Fragment} {good : Code → Place → Prop} {o : Origin}

/-- **A program whose code stands at places of some kind,** from one line of a template to
another. -/
def Program.Placed (classify : String → Fragment) (good : Code → Place → Prop) (o : Origin)
    (first last : Nat) (program : Program) : Prop :=
  ∀ places : Places, ∃ sites : List (Code × Place),
    Mark.walk (some ⟨o, first⟩ :: places) (program.map (Instruction.mark classify)) =
      (sites, some ⟨o, last⟩ :: places) ∧ ∀ site ∈ sites, good site.1 site.2

namespace Program.Placed

variable {a b c : Nat}

/-- Nothing. -/
lemma nil : Placed classify good o a a [] := fun _ => ⟨[], rfl, by simp⟩

/-- Programs one behind the other. -/
lemma append {p q : Program} (hp : Placed classify good o a b p)
    (hq : Placed classify good o b c q) : Placed classify good o a c (p ++ q) := by
  intro places
  obtain ⟨before, hbefore, hgood⟩ := hp places
  obtain ⟨behind, hbehind, hgood'⟩ := hq places
  refine ⟨before ++ behind, ?_, List.forall_mem_append.2 ⟨hgood, hgood'⟩⟩
  rw [List.map_append, Mark.walk_append, hbefore, hbehind]

/-- An instruction. -/
lemma single {i : Instruction}
    (hmove : ∀ places, (i.mark classify).move (some ⟨o, a⟩ :: places) = some ⟨o, b⟩ :: places)
    (hgood : ∀ code ∈ (i.mark classify).codes, good code ⟨o, a⟩) :
    Placed classify good o a b [i] := by
  intro places
  refine ⟨(i.mark classify).codes.map (·, ⟨o, a⟩), ?_, ?_⟩
  · rw [List.map_singleton, Mark.walk_cons rfl, hmove]
    simp [Mark.walk]
  · simpa using hgood

/-- One of two programs. -/
lemma ite {cond : Prop} [Decidable cond] {p q : Program} (hp : Placed classify good o a b p)
    (hq : Placed classify good o a b q) :
    Placed classify good o a b (if cond then p else q) := by
  split
  · exact hp
  · exact hq

/-- The marker of a line. -/
lemma line (number : Nat) : Placed classify good o a number [.line number] :=
  single (fun _ => rfl) (by simp [Instruction.mark, Mark.codes, Step.codes])

/-- Text put out. -/
lemma output (text : String) : Placed classify good o a a [.append text] :=
  single (fun _ => rfl) (by simp [Instruction.mark, Mark.codes, Step.codes])

/-- A fragment. -/
lemma exec {text : String} (h : ∀ code ∈ ((classify text).mark text).codes, good code ⟨o, a⟩) :
    Placed classify good o a a [.exec text] := by
  refine single (fun places => ?_) h
  rw [Instruction.mark]
  cases classify text <;> rfl

/-- The scope of an included template. -/
lemma scope {entry : ScopeEntry} {inner : Origin} {last : Nat} {body : Program}
    (hentry : entry.origin = some inner)
    (hparams : ∀ params ∈ entry.params, good (.expression params) ⟨o, a⟩)
    (hbody : Placed classify good inner 1 last body) :
    Placed classify good o a a (.enterScope entry :: body ++ [.exitScope]) := by
  intro places
  obtain ⟨sites, hsites, hgood⟩ := hbody (some ⟨o, a⟩ :: places)
  refine ⟨entry.params.map (fun params => (.expression params, ⟨o, a⟩)) ++ sites, ?_, ?_⟩
  · simp only [List.cons_append, List.map_cons, List.map_append, List.map_nil]
    rw [Instruction.mark, Mark.walk_cons rfl, Mark.walk_append]
    simp only [Mark.move, hentry, Option.map_some, hsites, Instruction.mark, Mark.walk_exit,
      Mark.codes, List.map_map, List.append_nil]
    rfl
  · simpa [or_imp, forall_and] using ⟨hparams, fun code place hmem => hgood (code, place) hmem⟩

end Program.Placed

end Programs

/-! ## Code of segments -/

/-- The code that a directive holds.  That of a component has its defaults as well. -/
def Directive.codes (w : Workspace) : Directive → List Code
  | includeFile _ params => params.toList.map .expression
  | includeComponent name params =>
    match w.lookup name with
    | .ok c => (c.defaults.toList ++ params.toList).map .expression
    | .error _ => []
  | beginCapture params => [.beginCapture params]
  | endCapture => [.endCapture]
  | script _ | style _ => []

namespace Segment

/-- The text of a literal segment as it is read. -/
def content (options : Options) (s : Segment) : List Char :=
  if options.dropBlank && Text.allBlank s.text.toList then [] else s.text.toList

/-- The fragment that a segment is where it is read as statements. -/
def fragment (options : Options) (s : Segment) : String :=
  String.ofList (closeLineComment (s.content options))

/-- The expression that a segment is where it is read as one. -/
def expression (options : Options) (s : Segment) : String :=
  String.ofList (outputExpression (s.content options))

/-- **The code that may be made of a segment:** a fragment, which may open a block, an expression,
and what a directive holds. -/
def codes (w : Workspace) (options : Options) (classify : String → Fragment) (s : Segment) :
    List Code :=
  ((classify (s.fragment options)).mark (s.fragment options)).codes ++
    .expression (s.expression options) ::
    (Directive.parse? s.text).toList.flatMap (Directive.codes w)

/-- The line on which a segment begins that stands behind others. -/
def lineBehind (before : List Segment) : Nat :=
  1 + Text.countNewlines (before.flatMap fun s => s.text.toList)

/-- The line behind one more segment. -/
lemma lineBehind_append (before : List Segment) (s : Segment) :
    lineBehind (before ++ [s]) = lineBehind before + s.newlines := by
  simp [lineBehind, Text.countNewlines_append, newlines, Nat.add_assoc]

end Segment

/-! ## Reading -/

namespace Reader

variable {classify : String → Fragment} {good : Code → Place → Prop} {o : Origin}
  {options : Options} {w : Workspace}

/-- Output text stays on its line. -/
lemma placed_output (r : Reader) (s : List Char) :
    (r.output options s).1.line = r.line ∧
      (r.output options s).2.Placed classify good o r.line r.line :=
  ⟨rfl, .ite .nil (.output _)⟩

/-- A tag stays on its line. -/
lemma placed_scanTag (r : Reader) (t : Tag) :
    (r.scanTag options t).1.line = r.line ∧
      (r.scanTag options t).2.Placed classify good o r.line r.line := by
  unfold scanTag
  split
  · by_cases hliteral : r.mode = some .literal
    · rw [if_pos hliteral]
      exact ⟨rfl, (placed_output r _).2⟩
    · rw [if_neg hliteral]
      exact ⟨rfl, .nil⟩
  · exact ⟨rfl, .ite (.output _) .nil⟩

/-- A literal segment stays on its line. -/
lemma placed_scanText (r : Reader) (s : Segment)
    (hgood : ∀ code ∈ s.codes w options classify, good code ⟨o, r.line⟩) :
    (r.scanText options (s.content options)).1.line = r.line ∧
      (r.scanText options (s.content options)).2.Placed classify good o r.line r.line := by
  have hexpression : good (.expression (s.expression options)) ⟨o, r.line⟩ :=
    hgood _ (List.mem_append_right _ List.mem_cons_self)
  unfold scanText
  split
  · exact placed_output r _
  · exact placed_output r _
  · exact ⟨rfl, .exec fun code hcode => hgood code (List.mem_append_left _ hcode)⟩
  · exact ⟨rfl, .single (fun _ => rfl) fun code hcode => by
      rwa [List.mem_singleton.1 hcode]⟩
  · exact ⟨rfl, .single (fun _ => rfl) fun code hcode => by
      rwa [List.mem_singleton.1 hcode]⟩
  · exact ⟨rfl, .nil⟩

/-- Where lines are marked, the marker of a line stands where the line begins. -/
lemma placed_advance (hdiagnostics : options.diagnostics = true) (r : Reader) (count : Nat) :
    (r.advance options count).1.line = r.line + count ∧
      (r.advance options count).2.Placed classify good o r.line (r.line + count) := by
  refine ⟨rfl, ?_⟩
  unfold advance
  rw [hdiagnostics, Bool.and_true]
  by_cases hcount : count = 0
  · subst hcount
    exact .nil
  · simp only [ne_eq, hcount, not_false_eq_true, decide_true, if_true]
    exact .line _

/-- **What is made of a segment stands in its place,** and is followed by the marker of the line
that the segment leads to. -/
theorem placed_scan (hdiagnostics : options.diagnostics = true) (r : Reader) (s : Segment)
    (hgood : ∀ code ∈ s.codes w options classify, good code ⟨o, r.line⟩) :
    (r.scan options s).1.line = r.line + s.newlines ∧
      (r.scan options s).2.Placed classify good o r.line (r.line + s.newlines) := by
  have hfirst : ∀ first : Reader × Program,
      first.1.line = r.line ∧ first.2.Placed classify good o r.line r.line →
      (first.1.advance options s.newlines).1.line = r.line + s.newlines ∧
        (first.2 ++ (first.1.advance options s.newlines).2).Placed classify good o r.line
          (r.line + s.newlines) := by
    rintro ⟨r', program⟩ ⟨hline, hplaced⟩
    dsimp only at hline
    rw [← hline] at hplaced ⊢
    obtain ⟨hadvanced, hmarker⟩ := placed_advance hdiagnostics r' s.newlines
    exact ⟨hadvanced, hplaced.append hmarker⟩
  unfold scan
  cases s.tag with
  | none => exact hfirst _ (placed_scanText r s hgood)
  | some t => exact hfirst _ (placed_scanTag r t)

end Reader

/-! ## Passes -/

namespace Pass

/-- A pass that goes on with a program that is placed, to some line. -/
def GoesOn (classify : String → Fragment) (good : Code → Place → Prop) (o : Origin) (p : Pass)
    (line : Nat) (q : Pass) : Prop :=
  q.reader.line = line ∧ ∃ program, q.program = p.program ++ program ∧
    program.Placed classify good o p.reader.line line

variable {classify : String → Fragment} {good : Code → Place → Prop} {o : Origin}
  {w : Workspace} {t : Template} {follow : Directive → Pass → Except CompileError Pass}

namespace GoesOn

variable {p q r : Pass} {a b : Nat}

/-- One pass goes on where another has ended. -/
lemma trans (hp : GoesOn classify good o p a q) (hq : GoesOn classify good o q b r) :
    GoesOn classify good o p b r := by
  obtain ⟨rfl, before, hbefore, hplaced⟩ := hp
  obtain ⟨hline, behind, hbehind, hplaced'⟩ := hq
  exact ⟨hline, before ++ behind, by rw [hbehind, hbefore, List.append_assoc],
    hplaced.append hplaced'⟩

end GoesOn

/-- The lines of a directive are marked. -/
lemma goesOn_advance {options : Options} (hdiagnostics : options.diagnostics = true) (p : Pass)
    (s : Segment) :
    GoesOn classify good o p (p.reader.line + s.newlines) (p.advance options s) := by
  obtain ⟨hline, hplaced⟩ := Reader.placed_advance hdiagnostics p.reader s.newlines
  exact ⟨hline, _, rfl, hplaced⟩

/-- A directive is what its segment holds. -/
lemma parse?_of_directive? {before : Option Tag} {s : Segment} {d : Directive}
    (h : directive? before s = some d) : Directive.parse? s.text = some d := by
  unfold directive? at h
  split at h
  · exact h
  · cases h

/-- What is made of a segment stands in its place, if what is made of a directive does.

**Proof sketch.** A directive is followed and then its line breaks are counted; any other segment is
read.  In both cases the fragments made stand on the line at which the segment begins. -/
lemma goesOn_segment (hdiagnostics : t.options.diagnostics = true) {before : Option Tag}
    {p q : Pass} {s : Segment}
    (hgood : ∀ code ∈ s.codes w t.options classify, good code ⟨o, p.reader.line⟩)
    (hfollow : ∀ d q, directive? before s = some d → follow d p = .ok q →
      (∀ code ∈ d.codes w, good code ⟨o, p.reader.line⟩) →
      GoesOn classify good o p p.reader.line q)
    (h : p.segment t.options follow before s = .ok q) :
    GoesOn classify good o p (p.reader.line + s.newlines) q := by
  unfold segment at h
  cases hd : directive? before s with
  | some d =>
    simp only [hd] at h
    cases hr : follow d p with
    | error e => rw [hr] at h; cases h
    | ok r =>
      rw [hr] at h
      cases h
      have hd' := parse?_of_directive? hd
      have hfirst := hfollow d r hd hr fun code hcode => hgood code
        (List.mem_append_right _ (List.mem_cons_of_mem _ (by simpa [hd'] using hcode)))
      rw [← hfirst.1]
      exact hfirst.trans (goesOn_advance hdiagnostics r s)
  | none =>
    simp only [hd] at h
    cases h
    obtain ⟨hline, hplaced⟩ := Reader.placed_scan hdiagnostics p.reader s hgood
    exact ⟨hline, _, rfl, hplaced⟩

/-- **What is made of all segments stands in its place,** if what is made of the directives that the
pass comes to does.

**Proof sketch.** Induction on the segments.  The line of the reader is always the line on which the
next segment begins. -/
theorem goesOn_segments (passed : List Segment) (hdiagnostics : t.options.diagnostics = true)
    {before : Option Tag} {p q : Pass} {behind : List Segment}
    (hgood : ∀ before s behind', passed ++ behind = before ++ s :: behind' →
      ∀ code ∈ s.codes w t.options classify, good code ⟨o, Segment.lineBehind before⟩)
    (hfollow : ∀ d r r', ComesTo t follow before p behind d r → follow d r = .ok r' →
      (∀ code ∈ d.codes w, good code ⟨o, r.reader.line⟩) →
      GoesOn classify good o r r.reader.line r')
    (hline : p.reader.line = Segment.lineBehind passed)
    (h : p.segments t follow before behind = .ok q) :
    GoesOn classify good o p (Segment.lineBehind (passed ++ behind)) q := by
  induction behind generalizing before p passed with
  | nil =>
    cases h
    rw [List.append_nil]
    exact ⟨hline, [], (List.append_nil _).symm, hline ▸ .nil⟩
  | cons s rest ih =>
    rw [segments] at h
    split at h
    · cases h
    · next hclosed =>
      have hclosed := Bool.not_eq_true _ ▸ hclosed
      cases hr : p.segment t.options follow before s with
      | error e => rw [hr] at h; cases h
      | ok r =>
        rw [hr] at h
        have hfirst : GoesOn classify good o p (Segment.lineBehind (passed ++ [s])) r := by
          rw [Segment.lineBehind_append, ← hline]
          exact goesOn_segment hdiagnostics (hline ▸ hgood passed s rest rfl)
            (fun d q hd => hfollow d p q (.here hd)) hr
        refine hfirst.trans ?_
        -- What the rest of the pass comes to, the whole pass comes to behind this segment.
        rw [show passed ++ s :: rest = (passed ++ [s]) ++ rest by simp] at hgood ⊢
        exact ih _ hgood (fun d r' r'' hcomes => hfollow d r' r'' (.later hclosed hr hcomes))
          hfirst.1 h

/-! ### Directives -/

/-- What is put out stays on its line. -/
lemma goesOn_emit (p : Pass) {program : Program}
    (h : program.Placed classify good o p.reader.line p.reader.line) :
    GoesOn classify good o p p.reader.line (p.emit program) :=
  ⟨rfl, program, rfl, h⟩

/-- An included template stays on the line of its include. -/
lemma goesOn_splice (p : Pass) {params : List String} (isolated : Bool) {path : Path}
    {inner : Compiled} {last : Nat}
    (hparams : ∀ code ∈ params, good (.expression code) ⟨o, p.reader.line⟩)
    (hinner : inner.program.Placed classify good ⟨path.text, inner.text⟩ 1 last) :
    GoesOn classify good o p p.reader.line (p.splice params isolated path inner) :=
  ⟨rfl, _, List.append_assoc _ _ _, .scope rfl hparams hinner⟩

/-- One more dependency makes no code. -/
lemma goesOn_depend {p q : Pass} {line : Nat} (h : GoesOn classify good o p line q) (path : Path) :
    GoesOn classify good o p line (q.depend path) := h

/-- **What is made of a directive stands on its line,** if the template that it includes is made so
that its code stands in its place.

**Proof sketch.** The cases of the directive.  An include puts its template in place of itself, with
the code of its parameters on the line of the directive; a component puts two markers around it.  A
skipped component puts out nothing, a reference puts out a text, and the two that are left put out
one instruction, whose code is on the line. -/
theorem goesOn_follow {nested : Template.Nested} {d : Directive} {p q : Pass}
    (hnested : ∀ path component inner, t.target? w d = some (path, component) →
      nested path component = .ok inner →
      ∃ last, inner.program.Placed classify good ⟨path.text, inner.text⟩ 1 last)
    (hgood : ∀ code ∈ d.codes w, good code ⟨o, p.reader.line⟩)
    (h : t.follow w nested d p = .ok q) : GoesOn classify good o p p.reader.line q := by
  cases d with
  | includeFile reference params =>
    simp only [Template.follow, Template.includeFile] at h
    cases hcurrent : t.options.sourcePath with
    | none => rw [hcurrent] at h; cases h
    | some current =>
      simp only [hcurrent] at h
      cases hinner : nested (w.library.resolve reference current) none with
      | error e => rw [hinner] at h; cases h
      | ok inner =>
        rw [hinner] at h
        cases h
        obtain ⟨last, hplaced⟩ :=
          hnested _ none inner (by rw [Template.target?, hcurrent]; rfl) hinner
        exact goesOn_depend (goesOn_splice p _ (fun code hcode =>
          hgood _ (List.mem_map_of_mem hcode)) hplaced) _
  | includeComponent name params =>
    simp only [Template.follow, Template.includeComponent] at h
    cases hlookup : w.lookup name with
    | error e =>
      simp only [hlookup] at h
      split at h
      · cases h
        exact ⟨rfl, [], (List.append_nil _).symm, .nil⟩
      · cases h
    | ok component =>
      simp only [hlookup] at h
      cases hinner : nested component.mainTemplate (some component) with
      | error e => rw [hinner] at h; cases h
      | ok inner =>
        rw [hinner] at h
        cases h
        obtain ⟨last, hplaced⟩ :=
          hnested _ (some component) inner (by rw [Template.target?, hlookup]) hinner
        rw [Directive.codes, hlookup] at hgood
        refine goesOn_depend ((goesOn_emit p (.output _)).trans
          (.trans (goesOn_splice _ _ (fun code hcode => ?_) hplaced) (goesOn_emit _ (.output _)))) _
        exact hgood _ (List.mem_map_of_mem hcode)
  | script reference | style reference =>
    cases h
    exact ⟨rfl, _, rfl, .output _⟩
  | beginCapture params =>
    cases h
    exact goesOn_emit p (.single (fun _ => rfl) hgood)
  | endCapture =>
    cases h
    exact goesOn_emit p (.single (fun _ => rfl) hgood)

end Pass

/-! ## Templates -/

namespace Template

variable {w : Workspace}

/-- The origin of what a template is compiled to. -/
def origin (t : Template) : Origin :=
  ⟨(t.options.sourcePath.map Path.text).getD anonymousName, t.text⟩

/-- **Code of a template, and its place:** the code is made of a segment of the template, and the
place is the line on which this segment begins. -/
def Writes (w : Workspace) (classify : String → Fragment) (t : Template) (code : Code)
    (place : Place) : Prop :=
  place.origin = t.origin ∧ ∃ before s behind,
    Segment.split t.options.delimiter t.text = before ++ s :: behind ∧
      code ∈ s.codes w t.options classify ∧ place.line = Segment.lineBehind before

/-- **Code of a template or of one that is entered on the way from it,** and its place. -/
def Holds (w : Workspace) (classify : String → Fragment) (root : Template) (code : Code)
    (place : Place) : Prop :=
  ∃ entered t, Active w root entered t ∧ t.Writes w classify code place

/-- The text of what a template is compiled to. -/
lemma text_of_expand {t : Template} {c : Compiled} (h : expand w t = .ok c) : c.text = t.text := by
  rw [expand_eq] at h
  cases hp : t.pass (t.follow w (t.nested w)) t.start with
  | error e => rw [hp] at h; cases h
  | ok p => rw [hp] at h; cases h; rfl

/-- **The code of a compiled template stands where the template has written it,** or one that is
entered from it.

**Proof sketch.** Induction on what is entered.  The code of an include stands in the place of the
include, and what it includes is compiled in the same way, behind the first line of its own
template. -/
theorem placed_expand (classify : String → Fragment) {root t : Template}
    {entered : List Path.Normal} (hactive : Active w root entered t)
    (hdiagnostics : t.options.diagnostics = true)
    {c : Compiled} (h : expand w t = .ok c) :
    ∃ last, c.program.Placed classify (root.Holds w classify) t.origin 1 last := by
  induction t using (enters_wellFounded w).induction generalizing entered c with
  | _ t ih =>
    have hgood : ∀ before s behind,
        Segment.split t.options.delimiter t.text = before ++ s :: behind →
        ∀ code ∈ s.codes w t.options classify,
          root.Holds w classify code ⟨t.origin, Segment.lineBehind before⟩ :=
      fun before s behind heq code hcode =>
        ⟨entered, t, hactive, rfl, before, s, behind, heq, hcode, rfl⟩
    have hnested : ∀ d p path component inner, t.ComesTo w d p →
        t.target? w d = some (path, component) → t.nested w path component = .ok inner →
        ∃ last, inner.program.Placed classify (root.Holds w classify)
          ⟨path.text, inner.text⟩ 1 last := by
      intro d p path component inner hcomes htarget hinner
      obtain ⟨hnew, hdepth, text, hread, hexpand⟩ := exists_of_nested hinner
      have henters : Enters w t path (t.including path component text) :=
        ⟨component, text, ⟨d, p, hcomes, htarget⟩, hnew, hread, hdepth, rfl⟩
      rw [text_of_expand hexpand]
      exact ih _ ⟨path, henters⟩ (hactive.enter henters) hdiagnostics hexpand
    rw [expand_eq, pass] at h
    cases hsegments : Segment.splitChecked t.options.delimiter t.text with
    | error e => rw [hsegments] at h; cases h
    | ok segments =>
      have hsplit : Segment.split t.options.delimiter t.text = segments := by
        unfold Segment.splitChecked at hsegments
        split at hsegments <;> cases hsegments
        rfl
      cases hp : t.start.segments t (t.follow w (t.nested w)) none segments with
      | error e => simp only [hsegments, Except.bind, hp] at h; cases h
      | ok p =>
        simp only [hsegments, Except.bind, hp] at h
        cases h
        obtain ⟨-, program, hprogram, hplaced⟩ := Pass.goesOn_segments (w := w) [] hdiagnostics
          (hsplit ▸ hgood)
          (fun d q r hcomes hfollow hcodes => Pass.goesOn_follow
            (fun path component inner => hnested d q path component inner ⟨_, hsegments, hcomes⟩)
            hcodes hfollow) rfl hp
        obtain rfl : p.program = program := hprogram
        exact ⟨_, hplaced⟩

end Template

end Stencil
