import Mathlib.Tactic.Lemma
import Stencil.Proofs.Block.Nesting

/-!
# Sites of code

Where the code in a tree stands, and where that in a program does.

## Main definitions

* `Stencil.Code` — code that rendering runs.
* `Stencil.Cursor` — the line before a part of a template, and whether rendering has surely noted
  it.
* `Stencil.Block.sites` — the code in a tree, with the template and the line of each piece.
* `Stencil.Block.compact` — whether conditions and loops end on the line on which they begin.
* `Stencil.Mark.walk` — the code in a program, each piece with its place, as the program is written.

## Main results

* `Stencil.Node.settled_of_compact`, `Stencil.Block.settled_of_compact` — if they do, all lines are
  settled.
* `Stencil.Node.walk_marks`, `Stencil.Block.walk_marks`, `Stencil.Branches.walk_marks` — the code in
  a tree stands where it stands in the program.

## Design

`Cursor` follows the markers of lines in the order in which they are written, while rendering passes
them in the order in which it runs.  Where the two part, at the end of a branch or a loop, the
cursor keeps what is written and notes that it is no longer settled, unless both agree.
-/

set_option relaxedAutoImplicit false
set_option autoImplicit false

namespace Stencil

/-! ## Code -/

/-- **Code that rendering runs.** -/
inductive Code where
  /-- An expression. -/
  | expression (text : String)
  /-- A complete fragment. -/
  | fragment (text : String)
  /-- An expression whose elements a loop visits. -/
  | elements (text : String)
  /-- An expression whose elements are handed to a callback. -/
  | items (text : String)
  /-- The beginning of a block that is kept apart, with its parameters. -/
  | beginCapture (params : String)
  /-- The end of such a block. -/
  | endCapture

/-- The code of a step. -/
def Step.codes : Step → List Code
  | .append _ | .line _ => []
  | .appendEscaped expr | .appendRaw expr => [.expression expr]
  | .beginCapture params => [.beginCapture params]
  | .endCapture => [.endCapture]

/-- The code in the head of a loop. -/
def LoopHeader.codes : LoopHeader → List Code
  | .whileLoop condition => [.expression condition]
  | .forOf _ iterable => [.elements iterable]
  | .forIn _ object => [.expression object]
  | .counted start condition update =>
    start.toList.map .fragment ++ condition.toList.map .expression ++ update.toList.map .fragment
  | .forEach iterable _ _ => [.items iterable]

/-- **The line before a part of a template,** as it is written, and whether rendering has surely
noted it when it comes there. -/
structure Cursor where
  /-- The line. -/
  line : Nat
  /-- Whether rendering has noted it. -/
  settled : Bool
  deriving DecidableEq, Repr

namespace Cursor

/-- The cursor behind a part that may have been skipped: it stood at the first cursor before the
part, and stands at the second behind it. -/
def merge (a b : Cursor) : Cursor := ⟨b.line, a.settled && b.settled && a.line == b.line⟩

/-- Nothing is unsettled by a part that leaves the cursor where it was. -/
@[simp]
lemma merge_self (c : Cursor) : c.merge c = c := by simp [merge]

/-- Whether a line that was noted is that of a cursor, as far as the cursor is settled. -/
def Covers (c : Cursor) (line : Nat) : Prop := c.settled = true → line = c.line

variable {a b : Cursor} {line : Nat}

/-- A line noted before a part that was skipped. -/
lemma Covers.merge_left (h : a.Covers line) : (a.merge b).Covers line := by
  intro hsettled
  obtain ⟨⟨ha, -⟩, heq⟩ : (a.settled = true ∧ b.settled = true) ∧ a.line = b.line := by
    simpa [merge] using hsettled
  exact (h ha).trans heq

/-- A line noted in a part that was not skipped. -/
lemma Covers.merge_right (h : b.Covers line) : (a.merge b).Covers line := by
  intro hsettled
  obtain ⟨⟨-, hb⟩, -⟩ : (a.settled = true ∧ b.settled = true) ∧ a.line = b.line := by
    simpa [merge] using hsettled
  exact h hb

end Cursor

mutual

/-- The cursor behind a node. -/
def Node.after (c : Cursor) : Node → Cursor
  | .step (.line number) => ⟨number, true⟩
  | .step _ => c
  | .exec _ => c
  -- The line before an included template is taken back behind it.
  | .scope entry body => if entry.origin.isSome then c else body.after c
  | .branch _ body rest => rest.after (c.merge (body.after c))
  | .loop _ body => c.merge (body.after c)

/-- The cursor behind a block. -/
def Block.after (c : Cursor) : Block → Cursor
  | .nil => c
  | .cons head tail => tail.after (head.after c)

/-- The cursor behind alternatives. -/
def Branches.after (c : Cursor) : Branches → Cursor
  | .none => c
  | .otherwise body => c.merge (body.after c)
  | .elseIf _ body rest => rest.after (c.merge (body.after c))

end

/-- What covers the cursor before alternatives covers the one behind them. -/
lemma Branches.covers_after {line : Nat} (rest : Branches) {c : Cursor}
    (h : c.Covers line) : (rest.after c).Covers line := by
  cases rest with
  | none => exact h
  | otherwise body => exact h.merge_left
  | elseIf condition body rest => exact rest.covers_after h.merge_left

/-- Code where it stands: in a template, behind a line. -/
structure Site where
  /-- The code. -/
  code : Code
  /-- The template. -/
  origin : Origin
  /-- The line before it. -/
  cursor : Cursor

mutual

/-- The code in a node, with its sites. -/
def Node.sites (o : Origin) (c : Cursor) : Node → List Site
  | .step s => s.codes.map (⟨·, o, c⟩)
  | .exec fragment => [⟨.fragment fragment, o, c⟩]
  | .scope entry body =>
    entry.params.map (⟨.expression ·, o, c⟩) ++
      match entry.origin with
      | some inner => body.sites inner ⟨1, true⟩
      | none => body.sites o c
  | .branch condition body rest =>
    ⟨.expression condition, o, c⟩ :: body.sites o c ++ rest.sites o (c.merge (body.after c))
  | .loop header body => header.codes.map (⟨·, o, c⟩) ++ body.sites o c

/-- **The code in a block,** with its sites. -/
def Block.sites (o : Origin) (c : Cursor) : Block → List Site
  | .nil => []
  | .cons head tail => head.sites o c ++ tail.sites o (head.after c)

/-- The code in alternatives, with its sites. -/
def Branches.sites (o : Origin) (c : Cursor) : Branches → List Site
  | .none => []
  | .otherwise body => body.sites o c
  | .elseIf condition body rest =>
    ⟨.expression condition, o, c⟩ :: body.sites o c ++ rest.sites o (c.merge (body.after c))

end

/-- A piece of code with its place, as it is written. -/
def Site.written (s : Site) : Code × Place := (s.code, ⟨s.origin, s.cursor.line⟩)

/-! ## Settled sites -/

mutual

/-- Whether a node marks a line of the template that it stands in. -/
def Node.marksLine : Node → Bool
  | .step (.line _) => true
  | .step _ | .exec _ => false
  | .scope entry body => entry.origin.isNone && body.marksLine
  | .branch _ body rest => body.marksLine || rest.marksLine
  | .loop _ body => body.marksLine

/-- Whether a block marks a line. -/
def Block.marksLine : Block → Bool
  | .nil => false
  | .cons head tail => head.marksLine || tail.marksLine

/-- Whether alternatives mark a line. -/
def Branches.marksLine : Branches → Bool
  | .none => false
  | .otherwise body => body.marksLine
  | .elseIf _ body rest => body.marksLine || rest.marksLine

end

mutual

/-- Whether the conditions and loops in a node end on the line on which they begin. -/
def Node.compact : Node → Bool
  | .step _ | .exec _ => true
  | .scope _ body => body.compact
  | .branch _ body rest => !body.marksLine && body.compact && rest.compact
  | .loop _ body => !body.marksLine && body.compact

/-- **Whether the conditions and loops in a block end on the line on which they begin.** -/
def Block.compact : Block → Bool
  | .nil => true
  | .cons head tail => head.compact && tail.compact

/-- Whether alternatives, and the conditions and loops in them, end on the line on which they
begin. -/
def Branches.compact : Branches → Bool
  | .none => true
  | .otherwise body => !body.marksLine && body.compact
  | .elseIf _ body rest => !body.marksLine && body.compact && rest.compact

end

mutual

/-- The cursor stays where no line is marked.

**Proof sketch.** Induction on the tree.  Alternatives are merged, which leaves a cursor that is the
same in all of them. -/
lemma Node.after_of_not_marksLine (node : Node) {c : Cursor} (h : node.marksLine = false) :
    node.after c = c := by
  cases node with
  | step s =>
    cases s with
    | line number => cases h
    | _ => rfl
  | exec fragment => rfl
  | scope entry body =>
    rw [Node.after]
    split
    · rfl
    · next hentry =>
      refine body.after_of_not_marksLine ?_
      simpa [Node.marksLine, Option.not_isSome_iff_eq_none.1 hentry] using h
  | branch condition body rest =>
    obtain ⟨hbody, hrest⟩ := Bool.or_eq_false_iff.1 h
    rw [Node.after, body.after_of_not_marksLine hbody, Cursor.merge_self,
      rest.after_of_not_marksLine hrest]
  | loop header body => rw [Node.after, body.after_of_not_marksLine h, Cursor.merge_self]

/-- The cursor stays where no line is marked. -/
lemma Block.after_of_not_marksLine (block : Block) {c : Cursor} (h : block.marksLine = false) :
    block.after c = c := by
  cases block with
  | nil => rfl
  | cons head tail =>
    obtain ⟨hhead, htail⟩ := Bool.or_eq_false_iff.1 h
    rw [Block.after, head.after_of_not_marksLine hhead, tail.after_of_not_marksLine htail]

/-- The cursor stays where no line is marked. -/
lemma Branches.after_of_not_marksLine (rest : Branches) {c : Cursor}
    (h : rest.marksLine = false) : rest.after c = c := by
  cases rest with
  | none => rfl
  | otherwise body => rw [Branches.after, body.after_of_not_marksLine h, Cursor.merge_self]
  | elseIf condition body rest =>
    obtain ⟨hbody, hrest⟩ := Bool.or_eq_false_iff.1 h
    rw [Branches.after, body.after_of_not_marksLine hbody, Cursor.merge_self,
      rest.after_of_not_marksLine hrest]

end

/-- Whether all of some sites, and the cursor behind them, are settled. -/
def Settled (sites : List Site) (c : Cursor) : Prop :=
  c.settled = true ∧ ∀ site ∈ sites, site.cursor.settled = true

namespace Settled

variable {sites sites' : List Site} {c c' : Cursor}

/-- Code at a settled cursor. -/
lemma codes (hc : c.settled = true) (o : Origin) (codes : List Code) :
    Settled (codes.map (⟨·, o, c⟩)) c := by
  refine ⟨hc, fun site hsite => ?_⟩
  obtain ⟨code, -, rfl⟩ := List.mem_map.1 hsite
  exact hc

/-- Sites one behind the other. -/
lemma append (h : Settled sites c) (h' : Settled sites' c') : Settled (sites ++ sites') c' :=
  ⟨h'.1, List.forall_mem_append.2 ⟨h.2, h'.2⟩⟩

/-- A body that may be skipped and marks no line. -/
lemma body {body : Block} {o : Origin} (hmarks : body.marksLine = false)
    (h : Settled (body.sites o c) (body.after c)) :
    Settled (body.sites o c) c ∧ c.merge (body.after c) = c := by
  rw [body.after_of_not_marksLine hmarks] at h ⊢
  exact ⟨h, c.merge_self⟩

end Settled

mutual

/-- **Lines are settled in a node whose conditions and loops end on the line on which they begin.**

**Proof sketch.** Induction on the tree.  A body that may be skipped leaves the cursor where it was,
and so the cursors that are merged agree. -/
theorem Node.settled_of_compact (node : Node) {o : Origin} {c : Cursor} (hc : c.settled = true)
    (h : node.compact = true) : Settled (node.sites o c) (node.after c) := by
  cases node with
  | step s =>
    refine ⟨?_, (Settled.codes hc o s.codes).2⟩
    cases s with
    | line number => rfl
    | _ => exact hc
  | exec fragment => exact .codes hc o [.fragment fragment]
  | scope entry body =>
    have hparams := Settled.codes hc o (entry.params.map .expression)
    rw [List.map_map] at hparams
    rcases entry with ⟨params, isolated, _ | inner⟩
    · exact hparams.append (body.settled_of_compact hc h)
    · exact ⟨hc, (hparams.append (body.settled_of_compact (c := ⟨1, true⟩) rfl h)).2⟩
  | branch condition body rest =>
    simp only [Node.compact, Bool.and_eq_true, Bool.not_eq_true'] at h
    obtain ⟨⟨hmarks, hbody⟩, hrest⟩ := h
    obtain ⟨hsites, hmerge⟩ := Settled.body hmarks (body.settled_of_compact (o := o) hc hbody)
    rw [Node.sites, Node.after, hmerge]
    exact ((Settled.codes hc o [.expression condition]).append hsites).append
      (rest.settled_of_compact hc hrest)
  | loop header body =>
    simp only [Node.compact, Bool.and_eq_true, Bool.not_eq_true'] at h
    obtain ⟨hmarks, hbody⟩ := h
    obtain ⟨hsites, hmerge⟩ := Settled.body hmarks (body.settled_of_compact (o := o) hc hbody)
    rw [Node.sites, Node.after, hmerge]
    exact (Settled.codes hc o header.codes).append hsites

/-- **Lines are settled in a block whose conditions and loops end on the line on which they
begin.** -/
theorem Block.settled_of_compact (block : Block) {o : Origin} {c : Cursor}
    (hc : c.settled = true) (h : block.compact = true) :
    Settled (block.sites o c) (block.after c) := by
  cases block with
  | nil => exact .codes hc o []
  | cons head tail =>
    obtain ⟨hhead, htail⟩ := Bool.and_eq_true_iff.1 h
    have hfirst := head.settled_of_compact (o := o) hc hhead
    exact hfirst.append (tail.settled_of_compact hfirst.1 htail)

/-- Lines are settled in alternatives that, with the conditions and loops in them, end on the
line on which they begin. -/
theorem Branches.settled_of_compact (rest : Branches) {o : Origin} {c : Cursor}
    (hc : c.settled = true) (h : rest.compact = true) :
    Settled (rest.sites o c) (rest.after c) := by
  cases rest with
  | none => exact .codes hc o []
  | otherwise body =>
    simp only [Branches.compact, Bool.and_eq_true, Bool.not_eq_true'] at h
    obtain ⟨hmarks, hbody⟩ := h
    obtain ⟨hsites, hmerge⟩ := Settled.body hmarks (body.settled_of_compact (o := o) hc hbody)
    rw [Branches.sites, Branches.after, hmerge]
    exact hsites
  | elseIf condition body rest =>
    simp only [Branches.compact, Bool.and_eq_true, Bool.not_eq_true'] at h
    obtain ⟨⟨hmarks, hbody⟩, hrest⟩ := h
    obtain ⟨hsites, hmerge⟩ := Settled.body hmarks (body.settled_of_compact (o := o) hc hbody)
    rw [Branches.sites, Branches.after, hmerge]
    exact ((Settled.codes hc o [.expression condition]).append hsites).append
      (rest.settled_of_compact hc hrest)

end

/-! ## Sites in a program -/

/-- The code in a mark. -/
def Mark.codes : Mark → List Code
  | step s => s.codes
  | exec fragment => [.fragment fragment]
  | enter entry => entry.params.map .expression
  | openBranch condition => [.expression condition]
  | openLoop header => header.codes
  | alternative condition => condition.toList.map .expression
  | exit | close => []

/-- The places in the scopes that are open, innermost first; there is none in a scope whose
template is not told. -/
abbrev Places := List (Option Place)

namespace Places

/-- The present place. -/
def current (places : Places) : Option Place := places.findSome? id

/-- The places when a line is come to. -/
def atLine (line : Nat) : Places → Places
  | [] => []
  | none :: rest => none :: atLine line rest
  | some place :: rest => some { place with line } :: rest

variable {places : Places} {o : Origin} {line : Nat}

/-- The present place when a line is come to. -/
lemma current_atLine (h : current places = some ⟨o, line⟩) (number : Nat) :
    current (atLine number places) = some ⟨o, number⟩ := by
  induction places with
  | nil => cases h
  | cons place rest ih =>
    cases place with
    | none => exact ih h
    | some place => cases h; rfl

/-- The line that one is at. -/
lemma atLine_current (h : current places = some ⟨o, line⟩) : atLine line places = places := by
  induction places with
  | nil => rfl
  | cons place rest ih =>
    cases place with
    | none => exact congrArg (none :: ·) (ih h)
    | some place => cases h; rfl

/-- The line that is come to last counts. -/
@[simp]
lemma atLine_atLine (places : Places) (a b : Nat) :
    atLine b (atLine a places) = atLine b places := by
  induction places with
  | nil => rfl
  | cons place rest ih =>
    cases place with
    | none => exact congrArg (none :: ·) ih
    | some place => rfl

end Places

namespace Mark

/-- The places behind a mark. -/
def move : Mark → Places → Places
  | step (.line number), places => Places.atLine number places
  | enter entry, places => entry.origin.map (⟨·, 1⟩) :: places
  | exit, places => places.tail
  | _, places => places

/-- **The code in marks,** each piece with its place, and the places behind them. -/
def walk : Places → List Mark → List (Code × Place) × Places
  | places, [] => ([], places)
  | places, mark :: rest =>
    let (sites, last) := walk (mark.move places) rest
    ((Places.current places).toList.flatMap (fun place => mark.codes.map (·, place)) ++ sites, last)

/-- The code in marks that stand one behind the other. -/
lemma walk_append (places : Places) (before behind : List Mark) :
    walk places (before ++ behind) =
      ((walk places before).1 ++ (walk (walk places before).2 behind).1,
        (walk (walk places before).2 behind).2) := by
  induction before generalizing places with
  | nil => rfl
  | cons mark rest ih => simp only [List.cons_append, walk, ih, List.append_assoc]

/-- The code in a mark at a place, and that behind it. -/
lemma walk_cons {places : Places} {place : Place} (h : Places.current places = some place)
    (mark : Mark) (rest : List Mark) :
    walk places (mark :: rest) =
      (mark.codes.map (·, place) ++ (walk (mark.move places) rest).1,
        (walk (mark.move places) rest).2) := by
  rw [walk, h, Option.toList_some, List.flatMap_singleton]

/-- Where a condition or a loop ends there is no code. -/
lemma walk_close (places : Places) : walk places [.close] = ([], places) := by
  simp [walk, codes, move]

/-- Where a scope ends there is no code. -/
lemma walk_exit (places : Places) : walk places [.exit] = ([], places.tail) := by
  simp [walk, codes, move]

end Mark

mutual

/-- **The code in a node stands where it stands in the program.**

**Proof sketch.** Induction on the tree.  Both ways of reading follow the markers in the order in
which they are written; only whether the line is settled is noted in the tree alone. -/
theorem Node.walk_marks (node : Node) {places : Places} {o : Origin} {c : Cursor}
    (h : Places.current places = some ⟨o, c.line⟩) :
    Mark.walk places node.marks =
      ((node.sites o c).map Site.written, Places.atLine (node.after c).line places) := by
  cases node with
  | step s =>
    rw [Node.marks, Mark.walk_cons h, Node.sites, List.map_map]
    cases s with
    | line number => rfl
    | _ => exact Prod.ext (List.append_nil _) (Places.atLine_current h).symm
  | exec fragment =>
    rw [Node.marks, Mark.walk_cons h]
    exact Prod.ext rfl (Places.atLine_current h).symm
  | scope entry body =>
    rw [Node.marks, List.cons_append, Mark.walk_cons h, Mark.walk_append, Node.sites,
      List.map_append, List.map_map]
    rcases entry with ⟨params, isolated, _ | inner⟩
    · -- The line goes on in a scope whose template is not told.
      have hinside : Places.current (none :: places) = some ⟨o, c.line⟩ := h
      have hbody := body.walk_marks hinside
      simp only [Mark.codes, Mark.move, List.map_map, Option.map_none, hbody, Mark.walk_exit,
        List.append_nil]
      rfl
    · have hinside : Places.current (some ⟨inner, 1⟩ :: places) = some ⟨inner, 1⟩ := rfl
      have hbody := body.walk_marks (c := ⟨1, true⟩) hinside
      simp only [Mark.codes, Mark.move, List.map_map, Option.map_some, hbody, Mark.walk_exit,
        List.append_nil]
      exact Prod.ext rfl (Places.atLine_current h).symm
  | branch condition body rest =>
    have hrest := rest.walk_marks (c := c.merge (body.after c))
      (Places.current_atLine h (body.after c).line)
    rw [Node.marks, List.cons_append, List.cons_append, Mark.walk_cons h, Mark.walk_append,
      Mark.walk_append]
    simp only [Mark.move, body.walk_marks h, hrest, Mark.walk_close, Places.atLine_atLine,
      List.append_nil, ← List.map_append]
    rfl
  | loop header body =>
    rw [Node.marks, List.cons_append, Mark.walk_cons h, Mark.walk_append, Node.sites,
      List.map_append, List.map_map]
    simp only [Mark.move, body.walk_marks h, Mark.walk_close, List.append_nil]
    rfl

/-- **The code in a block stands where it stands in the program.** -/
theorem Block.walk_marks (block : Block) {places : Places} {o : Origin} {c : Cursor}
    (h : Places.current places = some ⟨o, c.line⟩) :
    Mark.walk places block.marks =
      ((block.sites o c).map Site.written, Places.atLine (block.after c).line places) := by
  cases block with
  | nil => exact congrArg _ (Places.atLine_current h).symm
  | cons head tail =>
    rw [Block.marks, Mark.walk_append, head.walk_marks h,
      tail.walk_marks (Places.current_atLine h _), Places.atLine_atLine, ← List.map_append]
    rfl

/-- **The code in alternatives stands where it stands in the program.** -/
theorem Branches.walk_marks (rest : Branches) {places : Places} {o : Origin} {c : Cursor}
    (h : Places.current places = some ⟨o, c.line⟩) :
    Mark.walk places rest.marks =
      ((rest.sites o c).map Site.written, Places.atLine (rest.after c).line places) := by
  cases rest with
  | none => exact congrArg _ (Places.atLine_current h).symm
  | otherwise body =>
    rw [Branches.marks, Mark.walk_cons h]
    exact body.walk_marks h
  | elseIf condition body rest =>
    have hrest := rest.walk_marks (c := c.merge (body.after c))
      (Places.current_atLine h (body.after c).line)
    rw [Branches.marks, List.cons_append, Mark.walk_cons h, Mark.walk_append]
    simp only [Mark.move, body.walk_marks h, hrest, Places.atLine_atLine, ← List.map_append]
    rfl

end

end Stencil
