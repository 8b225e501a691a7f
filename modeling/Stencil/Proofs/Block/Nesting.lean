import Mathlib.Data.List.Basic
import Stencil.Render

/-!
# Nesting of blocks

What the tree of a program is to the program.  Each instruction plays a part in the blocks, which
its mark tells; read from left to right, the marks of the tree are the marks of the program, and a
program has a tree just if its blocks nest as a grammar says.

## Main definitions

* `Stencil.Mark`, `Stencil.Instruction.mark` — the part that an instruction plays in the blocks.
* `Stencil.Block.marks` — a tree read from left to right, with everything that opens, parts and
  closes blocks put back.
* `Stencil.Nested` — the grammar of programs whose blocks nest.
* `Stencil.Block.nodes`, `Stencil.Node.mark` — the nodes of a tree at every depth, and the mark
  that a node begins with.

## Main results

* `Stencil.Block.ofProgram_eq_ok_iff` — building a tree undoes reading it.
* `Stencil.nested_iff` — the programs that nest are those that some tree reads as.
* `Stencil.Block.ofProgram_structure` — building succeeds on the nested programs alone, and the
  tree loses nothing.

## Design

The builder works from left to right on a stack, while the grammar is a tree.  `levelMarks` reads
the stack back, so that one equation holds of every state of the builder; the other direction runs
the builder over the marks of a tree and needs no invariant.
-/

set_option relaxedAutoImplicit false
set_option autoImplicit false

namespace Stencil

open Script (BlockFault)

/-! ## Marks -/

/-- **The part that an instruction plays in the blocks.** -/
inductive Mark where
  /-- A step. -/
  | step (s : Step)
  /-- A complete fragment of code. -/
  | exec (fragment : String)
  /-- A scope begins. -/
  | enter (entry : ScopeEntry)
  /-- A scope ends. -/
  | exit
  /-- A condition begins. -/
  | openBranch (condition : String)
  /-- A loop begins. -/
  | openLoop (header : LoopHeader)
  /-- Another alternative of a condition begins. -/
  | alternative (condition : Option String)
  /-- A condition or a loop ends. -/
  | close

/-- The mark of a fragment of code. -/
def Fragment.mark (text : String) : Fragment → Mark
  | simple => .exec text
  | openBranch condition => .openBranch condition
  | openLoop header => .openLoop header
  | alternative condition => .alternative condition
  | close => .close

/-- **The mark of an instruction.** -/
def Instruction.mark (classify : String → Fragment) : Instruction → Mark
  | step s => .step s
  | exec text => (classify text).mark text
  | enterScope entry => .enter entry
  | exitScope => .exit

/-- The instructions that a mark may be of. -/
def Mark.Of (classify : String → Fragment) : Mark → Instruction → Prop
  | step s, i => i = .step s
  | exec text, i => i = .exec text ∧ classify text = .simple
  | enter entry, i => i = .enterScope entry
  | exit, i => i = .exitScope
  | openBranch condition, i => ∃ text, i = .exec text ∧ classify text = .openBranch condition
  | openLoop header, i => ∃ text, i = .exec text ∧ classify text = .openLoop header
  | alternative condition, i => ∃ text, i = .exec text ∧ classify text = .alternative condition
  | close, i => ∃ text, i = .exec text ∧ classify text = .close

/-- An instruction has a mark just if the mark may be of it. -/
lemma Instruction.mark_eq_iff {classify : String → Fragment} {i : Instruction} {m : Mark} :
    i.mark classify = m ↔ m.Of classify i := by
  constructor
  · rintro rfl
    cases i with
    | exec text => cases h : classify text <;> simp [mark, h, Fragment.mark, Mark.Of]
    | _ => rfl
  · intro h
    cases m with
    | exec text =>
      obtain ⟨rfl, h⟩ := h
      simp [mark, h, Fragment.mark]
    | step s | enter entry | exit => subst h; rfl
    | _ =>
      obtain ⟨text, rfl, h⟩ := h
      simp [mark, h, Fragment.mark]

mutual

/-- The marks of a node, from left to right. -/
def Node.marks : Node → List Mark
  | .step s => [.step s]
  | .exec fragment => [.exec fragment]
  | .scope entry body => .enter entry :: body.marks ++ [.exit]
  | .branch condition body rest => .openBranch condition :: body.marks ++ rest.marks ++ [.close]
  | .loop header body => .openLoop header :: body.marks ++ [.close]

/-- **The marks of a block,** from left to right. -/
def Block.marks : Block → List Mark
  | .nil => []
  | .cons head tail => head.marks ++ tail.marks

/-- The marks of the alternatives of a condition, from left to right. -/
def Branches.marks : Branches → List Mark
  | .none => []
  | .otherwise body => .alternative none :: body.marks
  | .elseIf condition body rest => .alternative (some condition) :: body.marks ++ rest.marks

end

/-! ## The grammar -/

section Grammar

variable (classify : String → Fragment)

mutual

/-- **A program whose blocks nest:** steps and complete fragments, scopes that are left, conditions
with their alternatives, and loops that are closed. -/
inductive Nested : Program → Prop
  /-- Nothing. -/
  | nil : Nested []
  /-- A step. -/
  | step {s : Step} {rest : Program} : Nested rest → Nested (.step s :: rest)
  /-- A complete fragment. -/
  | simple {text : String} {rest : Program} :
      classify text = .simple → Nested rest → Nested (.exec text :: rest)
  /-- A scope. -/
  | scope {entry : ScopeEntry} {body rest : Program} :
      Nested body → Nested rest → Nested (.enterScope entry :: body ++ .exitScope :: rest)
  /-- A condition and its alternatives. -/
  | branch {first last condition : String} {body more rest : Program} :
      classify first = .openBranch condition → Nested body → Alternatives more →
      classify last = .close → Nested rest →
      Nested (.exec first :: body ++ more ++ .exec last :: rest)
  /-- A loop. -/
  | loop {first last : String} {header : LoopHeader} {body rest : Program} :
      classify first = .openLoop header → Nested body → classify last = .close → Nested rest →
      Nested (.exec first :: body ++ .exec last :: rest)

/-- The alternatives of a condition: any number under conditions of their own, and at most one
without, which is the last. -/
inductive Alternatives : Program → Prop
  /-- No alternative. -/
  | none : Alternatives []
  /-- The last alternative. -/
  | otherwise {text : String} {body : Program} :
      classify text = .alternative .none → Nested body → Alternatives (.exec text :: body)
  /-- An alternative under a condition, and those behind it. -/
  | elseIf {text condition : String} {body more : Program} :
      classify text = .alternative (some condition) → Nested body → Alternatives more →
      Alternatives (.exec text :: body ++ more)

end

end Grammar

/-! ## Building undoes reading -/

variable {classify : String → Fragment}

/-- The node of a condition, given all of its branches as alternatives. -/
def Branches.toNode : Branches → Node
  | .elseIf condition body rest => .branch condition body rest
  | .otherwise body => .branch "" .nil (.otherwise body)
  | .none => .branch "" .nil .none

/-- Closing a condition makes a node of its branches, the present one under a condition. -/
lemma branchNode_some (done : DoneBranches) (condition : String) (body : Block) :
    Opened.branchNode done (some condition) body =
      (Opened.alternatives done (.elseIf condition body .none)).toNode := by
  unfold Opened.branchNode Branches.toNode
  rfl

/-- Closing a condition makes a node of its branches, the present one being the last. -/
lemma branchNode_none (done : DoneBranches) (body : Block) :
    Opened.branchNode done none body =
      (Opened.alternatives done (.otherwise body)).toNode := by
  unfold Opened.branchNode Branches.toNode
  rfl

/-- The nodes of a block, read last to first, make up the block. -/
@[simp]
lemma Block.ofReversed_toList (b : Block) : Block.ofReversed b.toList.reverse = b := by
  unfold ofReversed
  rw [List.foldl_reverse]
  induction b using Block.toList.induct with
  | case1 => rfl
  | case2 head tail ih => rw [toList, List.foldr_cons, ih]

section Steps

variable {text : String} (nodes : List Node) (levels : List Level) (rest : Program)

/-- A complete fragment adds a node, whatever is open. -/
lemma buildBlock_simple (h : classify text = .simple) :
    buildBlock classify nodes levels (.exec text :: rest) =
      buildBlock classify (.exec text :: nodes) levels rest := by
  rw [buildBlock.eq_def]
  simp only [h]

/-- A fragment that opens a condition adds a level, whatever is open. -/
lemma buildBlock_openBranch {condition : String} (h : classify text = .openBranch condition) :
    buildBlock classify nodes levels (.exec text :: rest) =
      buildBlock classify [] (⟨.branch [] (some condition), nodes⟩ :: levels) rest := by
  rw [buildBlock.eq_def]
  simp only [h]

/-- A fragment that opens a loop adds a level, whatever is open. -/
lemma buildBlock_openLoop {header : LoopHeader} (h : classify text = .openLoop header) :
    buildBlock classify nodes levels (.exec text :: rest) =
      buildBlock classify [] (⟨.loop header, nodes⟩ :: levels) rest := by
  rw [buildBlock.eq_def]
  simp only [h]

end Steps

mutual

/-- Building over the marks of a node adds the node.

**Proof sketch.** Induction on the node, together with the two lemmas below.  A node that opens
something pushes a level; its body is built on an empty list of nodes, and what closes it takes the
level away. -/
lemma buildBlock_node (node : Node) {p : Program}
    (h : p.map (Instruction.mark classify) = node.marks)
    (rest : Program) (nodes : List Node) (levels : List Level) :
    buildBlock classify nodes levels (p ++ rest) =
      buildBlock classify (node :: nodes) levels rest := by
  cases node with
  | step s =>
    obtain ⟨i, rfl, hi⟩ := List.map_eq_singleton_iff.1 h
    obtain rfl := Instruction.mark_eq_iff.1 hi
    rw [List.singleton_append, buildBlock]
  | exec text =>
    obtain ⟨i, rfl, hi⟩ := List.map_eq_singleton_iff.1 h
    obtain ⟨rfl, hc⟩ := Instruction.mark_eq_iff.1 hi
    rw [List.singleton_append, buildBlock_simple _ _ _ hc]
  | scope entry body =>
    obtain ⟨i, q, rfl, hi, hq⟩ := List.map_eq_cons_iff.1 h
    obtain ⟨b, e, rfl, hb, he⟩ := List.map_eq_append_iff.1 hq
    obtain ⟨j, rfl, hj⟩ := List.map_eq_singleton_iff.1 he
    obtain rfl := Instruction.mark_eq_iff.1 hi
    obtain rfl := Instruction.mark_eq_iff.1 hj
    rw [List.cons_append, List.append_assoc, buildBlock, buildBlock_block body hb]
    simp [buildBlock]
  | branch condition body more =>
    obtain ⟨q, e, rfl, hq, he⟩ := List.map_eq_append_iff.1 h
    obtain ⟨q, m, rfl, hq, hm⟩ := List.map_eq_append_iff.1 hq
    obtain ⟨i, b, rfl, hi, hb⟩ := List.map_eq_cons_iff.1 hq
    obtain ⟨j, rfl, hj⟩ := List.map_eq_singleton_iff.1 he
    obtain ⟨first, rfl, hfirst⟩ := Instruction.mark_eq_iff.1 hi
    obtain ⟨last, rfl, hlast⟩ := Instruction.mark_eq_iff.1 hj
    simp only [List.cons_append, List.append_assoc, List.nil_append]
    rw [buildBlock_openBranch _ _ _ hfirst, buildBlock_block body hb,
      buildBlock_branches more hm hlast]
    simp [Opened.alternatives, Branches.toNode]
  | loop header body =>
    obtain ⟨i, q, rfl, hi, hq⟩ := List.map_eq_cons_iff.1 h
    obtain ⟨b, e, rfl, hb, he⟩ := List.map_eq_append_iff.1 hq
    obtain ⟨j, rfl, hj⟩ := List.map_eq_singleton_iff.1 he
    obtain ⟨first, rfl, hfirst⟩ := Instruction.mark_eq_iff.1 hi
    obtain ⟨last, rfl, hlast⟩ := Instruction.mark_eq_iff.1 hj
    simp only [List.cons_append, List.append_assoc, List.nil_append]
    rw [buildBlock_openLoop _ _ _ hfirst, buildBlock_block body hb]
    simp [buildBlock, hlast]

/-- Building over the marks of a block adds its nodes. -/
lemma buildBlock_block (b : Block) {p : Program} (h : p.map (Instruction.mark classify) = b.marks)
    (rest : Program) (nodes : List Node) (levels : List Level) :
    buildBlock classify nodes levels (p ++ rest) =
      buildBlock classify (b.toList.reverse ++ nodes) levels rest := by
  cases b with
  | nil =>
    obtain rfl := List.map_eq_nil_iff.1 h
    rfl
  | cons head tail =>
    obtain ⟨q, t, rfl, hq, ht⟩ := List.map_eq_append_iff.1 h
    rw [List.append_assoc, buildBlock_node head hq, buildBlock_block tail ht]
    simp [Block.toList]

/-- Building over the marks of alternatives up to the end of their condition makes a node of
all the branches.

**Proof sketch.** The cases of the alternatives, by induction.  The body of each is built
(`buildBlock_block`), and then the mark behind it closes the branch and begins the next one, or ends
the construct. -/
lemma buildBlock_branches (more : Branches) {p : Program}
    (h : p.map (Instruction.mark classify) = more.marks) {last : String}
    (hlast : classify last = .close) (rest : Program) (done : DoneBranches) (condition : String)
    (nodes before : List Node) (levels : List Level) :
    buildBlock classify nodes (⟨.branch done (some condition), before⟩ :: levels)
        (p ++ .exec last :: rest) =
      buildBlock classify
        ((Opened.alternatives done (.elseIf condition (.ofReversed nodes) more)).toNode :: before)
        levels rest := by
  cases more with
  | none =>
    obtain rfl := List.map_eq_nil_iff.1 h
    simp [buildBlock, hlast, branchNode_some]
  | otherwise body =>
    obtain ⟨i, b, rfl, hi, hb⟩ := List.map_eq_cons_iff.1 h
    obtain ⟨first, rfl, hfirst⟩ := Instruction.mark_eq_iff.1 hi
    simp only [List.cons_append, buildBlock, hfirst]
    rw [buildBlock_block body hb]
    simp [buildBlock, hlast, branchNode_none, Opened.alternatives]
  | elseIf next body more =>
    obtain ⟨q, m, rfl, hq, hm⟩ := List.map_eq_append_iff.1 h
    obtain ⟨i, b, rfl, hi, hb⟩ := List.map_eq_cons_iff.1 hq
    obtain ⟨first, rfl, hfirst⟩ := Instruction.mark_eq_iff.1 hi
    simp only [List.cons_append, List.append_assoc, buildBlock, hfirst]
    rw [buildBlock_block body hb, buildBlock_branches more hm hlast]
    simp [Opened.alternatives]

end

/-! ## Reading the builder's state -/

/-- The marks of nodes that were read last to first. -/
def nodeMarks (nodes : List Node) : List Mark := nodes.reverse.flatMap Node.marks

/-- No nodes have no marks. -/
@[simp]
lemma nodeMarks_nil : nodeMarks [] = [] := rfl

/-- The node that was read last comes last. -/
@[simp]
lemma nodeMarks_cons (node : Node) (nodes : List Node) :
    nodeMarks (node :: nodes) = nodeMarks nodes ++ node.marks := by
  simp [nodeMarks]

/-- A block of nodes that were read last to first has their marks. -/
@[simp]
lemma marks_ofReversed (nodes : List Node) (tail : Block) :
    (Block.ofReversed nodes tail).marks = nodeMarks nodes ++ tail.marks := by
  unfold Block.ofReversed
  induction nodes generalizing tail with
  | nil => rfl
  | cons node nodes ih => simp [ih, Block.marks]

/-- The marks of the complete branches of a condition, up to where the present one begins. -/
def branchMarks : DoneBranches → Option String → List Mark
  | [], some condition => [.openBranch condition]
  | [], none => [.openBranch "", .alternative none]
  | (condition, body) :: done, next =>
    branchMarks done (some condition) ++ body.marks ++ [.alternative next]

/-- The marks of an open construct, up to the nodes that stand in it. -/
def Opened.marks : Opened → List Mark
  | scope entry => [.enter entry]
  | loop header => [.openLoop header]
  | branch done condition => branchMarks done condition

/-- The marks of everything around the innermost construct. -/
def levelMarks : List Level → List Mark
  | [] => []
  | level :: levels => levelMarks levels ++ nodeMarks level.before ++ level.opened.marks

/-- The node of a condition begins with the marks of its complete branches. -/
lemma marks_toNode_elseIf (done : DoneBranches) (condition : String) (body : Block)
    (more : Branches) :
    (Opened.alternatives done (.elseIf condition body more)).toNode.marks =
      branchMarks done (some condition) ++ body.marks ++ more.marks ++ [.close] := by
  induction done generalizing condition body more with
  | nil => simp [Opened.alternatives, Branches.toNode, Node.marks, branchMarks]
  | cons entry done ih =>
    obtain ⟨previous, block⟩ := entry
    rw [Opened.alternatives, ih]
    simp [branchMarks, Branches.marks]

/-- Closing a condition keeps all its marks. -/
lemma marks_branchNode (done : DoneBranches) (condition : Option String) (body : Block) :
    (Opened.branchNode done condition body).marks =
      branchMarks done condition ++ body.marks ++ [.close] := by
  cases condition with
  | some condition =>
    rw [branchNode_some, marks_toNode_elseIf]
    simp [Branches.marks]
  | none =>
    rw [branchNode_none]
    cases done with
    | nil => simp [Opened.alternatives, Branches.toNode, Node.marks, Block.marks, Branches.marks,
        branchMarks]
    | cons entry done =>
      obtain ⟨previous, block⟩ := entry
      rw [Opened.alternatives, marks_toNode_elseIf]
      simp [branchMarks, Branches.marks]

/-- Nothing is lost on the way: the marks of the tree are those of all that the builder holds,
followed by those of the instructions that it still has to read.

**Proof sketch.** Induction along the builder.  Every step moves marks from the instructions to the
nodes and levels, and closing a construct moves them from a level into a node. -/
lemma marks_of_buildBlock {nodes : List Node} {levels : List Level} {p : Program} {b : Block}
    (h : buildBlock classify nodes levels p = .ok b) :
    b.marks = levelMarks levels ++ nodeMarks nodes ++ p.map (Instruction.mark classify) := by
  fun_induction buildBlock classify nodes levels p with
  | case1 nodes =>
    cases h
    simp [levelMarks, Block.marks]
  | case3 nodes levels s rest ih => simp [ih h, Node.marks, Instruction.mark]
  | case4 nodes levels entry rest ih =>
    simp [ih h, levelMarks, Opened.marks, Instruction.mark]
  | case6 nodes rest entry before levels ih =>
    simp [ih h, levelMarks, Opened.marks, Node.marks, Block.marks, Instruction.mark]
  | case8 nodes levels text rest hc ih =>
    simp [ih h, Node.marks, Instruction.mark, hc, Fragment.mark]
  | case9 nodes levels text rest condition hc ih =>
    simp [ih h, levelMarks, Opened.marks, branchMarks, Instruction.mark, hc, Fragment.mark]
  | case10 nodes levels text rest header hc ih =>
    simp [ih h, levelMarks, Opened.marks, Instruction.mark, hc, Fragment.mark]
  | case15 nodes text rest next hc done condition before levels ih =>
    simp [ih h, levelMarks, Opened.marks, branchMarks, Block.marks, Instruction.mark, hc,
      Fragment.mark]
  | case18 nodes text rest hc header before levels ih =>
    simp [ih h, levelMarks, Opened.marks, Node.marks, Block.marks, Instruction.mark, hc,
      Fragment.mark]
  | case19 nodes text rest hc done condition before levels ih =>
    simp [ih h, levelMarks, Opened.marks, marks_branchNode, Block.marks, Instruction.mark, hc,
      Fragment.mark]
  | _ => cases h

/-- **Building a tree undoes reading it:** a program has a tree just if the marks of the tree are
the marks of the program. -/
theorem Block.ofProgram_eq_ok_iff {p : Program} {b : Block} :
    Block.ofProgram classify p = .ok b ↔ p.map (Instruction.mark classify) = b.marks := by
  unfold ofProgram
  constructor
  · intro h
    simpa [levelMarks] using (marks_of_buildBlock h).symm
  · intro h
    have hbuild := buildBlock_block b h [] [] []
    rwa [List.append_nil, List.append_nil, buildBlock, ofReversed_toList] at hbuild

/-! ## The grammar and the trees -/

mutual

/-- A program whose blocks nest has the marks of some block.

**Proof sketch.** Induction on the derivation, which gives the marks of the parts of each
construct. -/
lemma Nested.exists_marks {p : Program} (h : Nested classify p) :
    ∃ b : Block, p.map (Instruction.mark classify) = b.marks := by
  cases h with
  | nil => exact ⟨.nil, rfl⟩
  | @step s rest hrest =>
    obtain ⟨tail, htail⟩ := hrest.exists_marks
    exact ⟨.cons (.step s) tail, by simp [Instruction.mark, htail, Block.marks, Node.marks]⟩
  | @simple text rest hc hrest =>
    obtain ⟨tail, htail⟩ := hrest.exists_marks
    exact ⟨.cons (.exec text) tail,
      by simp [Instruction.mark, hc, Fragment.mark, htail, Block.marks, Node.marks]⟩
  | @scope entry body rest hbody hrest =>
    obtain ⟨inner, hinner⟩ := hbody.exists_marks
    obtain ⟨tail, htail⟩ := hrest.exists_marks
    exact ⟨.cons (.scope entry inner) tail,
      by simp [Instruction.mark, hinner, htail, Block.marks, Node.marks]⟩
  | @branch first last condition body more rest hfirst hbody hmore hlast hrest =>
    obtain ⟨inner, hinner⟩ := hbody.exists_marks
    obtain ⟨others, hothers⟩ := hmore.exists_marks
    obtain ⟨tail, htail⟩ := hrest.exists_marks
    exact ⟨.cons (.branch condition inner others) tail, by
      simp [Instruction.mark, hfirst, hlast, Fragment.mark, hinner, hothers, htail, Block.marks,
        Node.marks]⟩
  | @loop first last header body rest hfirst hbody hlast hrest =>
    obtain ⟨inner, hinner⟩ := hbody.exists_marks
    obtain ⟨tail, htail⟩ := hrest.exists_marks
    exact ⟨.cons (.loop header inner) tail, by
      simp [Instruction.mark, hfirst, hlast, Fragment.mark, hinner, htail, Block.marks,
        Node.marks]⟩
termination_by p.length
decreasing_by all_goals simp only [List.length_append, List.length_cons]; omega

/-- Alternatives by the grammar have the marks of some alternatives of the tree. -/
lemma Alternatives.exists_marks {p : Program} (h : Alternatives classify p) :
    ∃ more : Branches, p.map (Instruction.mark classify) = more.marks := by
  cases h with
  | none => exact ⟨.none, rfl⟩
  | @otherwise text body hc hbody =>
    obtain ⟨inner, hinner⟩ := hbody.exists_marks
    exact ⟨.otherwise inner,
      by simp [Instruction.mark, hc, Fragment.mark, hinner, Branches.marks]⟩
  | @elseIf text condition body more hc hbody hmore =>
    obtain ⟨inner, hinner⟩ := hbody.exists_marks
    obtain ⟨others, hothers⟩ := hmore.exists_marks
    exact ⟨.elseIf condition inner others,
      by simp [Instruction.mark, hc, Fragment.mark, hinner, hothers, Branches.marks]⟩
termination_by p.length
decreasing_by all_goals simp only [List.length_append, List.length_cons]; omega

end

mutual

/-- A program with the marks of a node in front of a nested one is nested.

**Proof sketch.** The cases of the node.  The marks tell where the program begins and ends the
construct, and what is in between is nested by induction. -/
lemma Node.nested (node : Node) {p rest : Program}
    (h : p.map (Instruction.mark classify) = node.marks) (hrest : Nested classify rest) :
    Nested classify (p ++ rest) := by
  cases node with
  | step s =>
    obtain ⟨i, rfl, hi⟩ := List.map_eq_singleton_iff.1 h
    obtain rfl := Instruction.mark_eq_iff.1 hi
    exact .step hrest
  | exec text =>
    obtain ⟨i, rfl, hi⟩ := List.map_eq_singleton_iff.1 h
    obtain ⟨rfl, hc⟩ := Instruction.mark_eq_iff.1 hi
    exact .simple hc hrest
  | scope entry body =>
    obtain ⟨i, q, rfl, hi, hq⟩ := List.map_eq_cons_iff.1 h
    obtain ⟨b, e, rfl, hb, he⟩ := List.map_eq_append_iff.1 hq
    obtain ⟨j, rfl, hj⟩ := List.map_eq_singleton_iff.1 he
    obtain rfl := Instruction.mark_eq_iff.1 hi
    obtain rfl := Instruction.mark_eq_iff.1 hj
    simpa using Nested.scope (body.nested hb) hrest
  | branch condition body more =>
    obtain ⟨q, e, rfl, hq, he⟩ := List.map_eq_append_iff.1 h
    obtain ⟨q, m, rfl, hq, hm⟩ := List.map_eq_append_iff.1 hq
    obtain ⟨i, b, rfl, hi, hb⟩ := List.map_eq_cons_iff.1 hq
    obtain ⟨j, rfl, hj⟩ := List.map_eq_singleton_iff.1 he
    obtain ⟨first, rfl, hfirst⟩ := Instruction.mark_eq_iff.1 hi
    obtain ⟨last, rfl, hlast⟩ := Instruction.mark_eq_iff.1 hj
    simpa using Nested.branch hfirst (body.nested hb) (more.nested hm) hlast hrest
  | loop header body =>
    obtain ⟨i, q, rfl, hi, hq⟩ := List.map_eq_cons_iff.1 h
    obtain ⟨b, e, rfl, hb, he⟩ := List.map_eq_append_iff.1 hq
    obtain ⟨j, rfl, hj⟩ := List.map_eq_singleton_iff.1 he
    obtain ⟨first, rfl, hfirst⟩ := Instruction.mark_eq_iff.1 hi
    obtain ⟨last, rfl, hlast⟩ := Instruction.mark_eq_iff.1 hj
    simpa using Nested.loop hfirst (body.nested hb) hlast hrest

/-- A program with the marks of a block is nested. -/
lemma Block.nested (b : Block) {p : Program}
    (h : p.map (Instruction.mark classify) = b.marks) : Nested classify p := by
  cases b with
  | nil =>
    obtain rfl := List.map_eq_nil_iff.1 h
    exact .nil
  | cons head tail =>
    obtain ⟨q, t, rfl, hq, ht⟩ := List.map_eq_append_iff.1 h
    exact head.nested hq (tail.nested ht)

/-- A program with the marks of alternatives is alternatives by the grammar. -/
lemma Branches.nested (more : Branches) {p : Program}
    (h : p.map (Instruction.mark classify) = more.marks) : Alternatives classify p := by
  cases more with
  | none =>
    obtain rfl := List.map_eq_nil_iff.1 h
    exact .none
  | otherwise body =>
    obtain ⟨i, b, rfl, hi, hb⟩ := List.map_eq_cons_iff.1 h
    obtain ⟨text, rfl, hc⟩ := Instruction.mark_eq_iff.1 hi
    exact .otherwise hc (body.nested hb)
  | elseIf condition body more =>
    obtain ⟨q, m, rfl, hq, hm⟩ := List.map_eq_append_iff.1 h
    obtain ⟨i, b, rfl, hi, hb⟩ := List.map_eq_cons_iff.1 hq
    obtain ⟨text, rfl, hc⟩ := Instruction.mark_eq_iff.1 hi
    exact .elseIf hc (body.nested hb) (more.nested hm)

end

/-- **The programs that nest are those that some tree reads as.** -/
theorem nested_iff {p : Program} :
    Nested classify p ↔ ∃ b : Block, p.map (Instruction.mark classify) = b.marks :=
  ⟨fun h => h.exists_marks, fun ⟨b, h⟩ => b.nested h⟩

/-! ## Nodes at every depth -/

/-- **The mark that a node begins with.** -/
def Node.mark : Node → Mark
  | .step s => .step s
  | .exec fragment => .exec fragment
  | .scope entry _ => .enter entry
  | .branch condition _ _ => .openBranch condition
  | .loop header _ => .openLoop header

mutual

/-- A node and the nodes inside it. -/
def Node.nodes : Node → List Node
  | .step s => [.step s]
  | .exec fragment => [.exec fragment]
  | .scope entry body => .scope entry body :: body.nodes
  | .branch condition body rest => .branch condition body rest :: body.nodes ++ rest.nodes
  | .loop header body => .loop header body :: body.nodes

/-- **The nodes of a block** at every depth. -/
def Block.nodes : Block → List Node
  | .nil => []
  | .cons head tail => head.nodes ++ tail.nodes

/-- The nodes of alternatives at every depth. -/
def Branches.nodes : Branches → List Node
  | .none => []
  | .otherwise body => body.nodes
  | .elseIf _ body rest => body.nodes ++ rest.nodes

end

mutual

/-- The nodes inside a node begin with marks of the node. -/
lemma Node.mark_mem (node : Node) {inner : Node} (h : inner ∈ node.nodes) :
    inner.mark ∈ node.marks := by
  cases node with
  | step s | exec fragment =>
    obtain rfl := List.mem_singleton.1 h
    simp [Node.mark, Node.marks]
  | scope entry body =>
    rcases List.mem_cons.1 h with rfl | h
    · simp [Node.mark, Node.marks]
    · simp [Node.marks, body.mark_mem h]
  | branch condition body rest =>
    simp only [Node.nodes, List.cons_append, List.mem_cons, List.mem_append] at h
    rcases h with rfl | h | h
    · simp [Node.mark, Node.marks]
    · simp [Node.marks, body.mark_mem h]
    · simp [Node.marks, rest.mark_mem h]
  | loop header body =>
    rcases List.mem_cons.1 h with rfl | h
    · simp [Node.mark, Node.marks]
    · simp [Node.marks, body.mark_mem h]

/-- The nodes of a block begin with marks of the block. -/
lemma Block.mark_mem (b : Block) {inner : Node} (h : inner ∈ b.nodes) :
    inner.mark ∈ b.marks := by
  cases b with
  | nil => simp [Block.nodes] at h
  | cons head tail =>
    rcases List.mem_append.1 h with h | h
    · exact List.mem_append_left _ (head.mark_mem h)
    · exact List.mem_append_right _ (tail.mark_mem h)

/-- The nodes of alternatives begin with marks of the alternatives. -/
lemma Branches.mark_mem (more : Branches) {inner : Node} (h : inner ∈ more.nodes) :
    inner.mark ∈ more.marks := by
  cases more with
  | none => simp [Branches.nodes] at h
  | otherwise body => exact List.mem_cons_of_mem _ (body.mark_mem h)
  | elseIf condition body rest =>
    rcases List.mem_append.1 h with h | h
    · exact List.mem_append_left _ (List.mem_cons_of_mem _ (body.mark_mem h))
    · exact List.mem_append_right _ (rest.mark_mem h)

end

/-! ## The builder and the grammar -/

/-- **Building accepts exactly the grammar and loses nothing.**  On a program whose blocks nest it
gives the only tree that reads as the program, and every node of the tree stems from an instruction
that plays its part.  On any other program it gives the fault that rendering then ends with.

**Proof sketch.** The tree that was built reads as the program (`Block.ofProgram_eq_ok_iff`), so the
program nests (`nested_iff`) and the mark of a node at any depth is one of the program's.  Where
building fails, no tree reads as the program. -/
theorem Block.ofProgram_structure (classify : String → Fragment) (program : Program) :
    match Block.ofProgram classify program with
    | .ok b =>
      Nested classify program ∧
        program.map (Instruction.mark classify) = b.marks ∧
        (∀ other : Block, program.map (Instruction.mark classify) = other.marks → other = b) ∧
        ∀ node ∈ b.nodes, ∃ i ∈ program, node.mark.Of classify i
    | .error f =>
      ¬ Nested classify program ∧
        ∀ (a : Artifact) (e : Evaluator) (fuel : Nat) (data : Value),
          { a with program }.render { e with classify } fuel data =
            .error (.fault ⟨.unbalanced f, none⟩) := by
  cases h : Block.ofProgram classify program with
  | ok b =>
    have hmarks := ofProgram_eq_ok_iff.1 h
    refine ⟨nested_iff.2 ⟨b, hmarks⟩, hmarks, fun other hother => ?_, fun node hnode => ?_⟩
    · have heq := (ofProgram_eq_ok_iff.2 hother).symm.trans h
      exact Except.ok.inj heq
    · have hmem := b.mark_mem hnode
      rw [← hmarks] at hmem
      obtain ⟨i, hi, hmark⟩ := List.mem_map.1 hmem
      exact ⟨i, hi, Instruction.mark_eq_iff.1 hmark⟩
  | error f =>
    refine ⟨fun hnested => ?_, fun a e fuel data => ?_⟩
    · obtain ⟨b, hb⟩ := nested_iff.1 hnested
      rw [ofProgram_eq_ok_iff.2 hb] at h
      cases h
    · simp [Artifact.render, h]

end Stencil
