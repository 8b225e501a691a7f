import Stencil.Block.Header
import Stencil.Script.Fault
import Stencil.Template.Program

/-!
# Block trees

A program is flat, but fragments of code open and close blocks and includes enter and leave scopes.
Before a program runs, its instructions are put into a tree.

## Main definitions

* `Stencil.Node`, `Stencil.Block`, `Stencil.Branches` — the tree.
* `Stencil.Block.ofProgram` — the tree of a program, unless its blocks do not nest.

## Design

The tree is built in one pass from left to right.  A stack holds what is open: a scope, a loop or a
condition, each with the nodes that stand before it.  An instruction either adds a node to the
innermost construct, opens one, or closes the innermost one; a fault arises where what is closed is
not what is open.
-/

set_option relaxedAutoImplicit false
set_option autoImplicit false

namespace Stencil

open Script (BlockFault)

mutual

/-- **A node:** something that runs as a whole. -/
inductive Node where
  /-- A step. -/
  | step (s : Step)
  /-- A complete fragment of code. -/
  | exec (fragment : String)
  /-- The scope of an included template. -/
  | scope (entry : ScopeEntry) (body : Block)
  /-- A condition, what it guards, and the alternatives. -/
  | branch (condition : String) (body : Block) (rest : Branches)
  /-- A loop. -/
  | loop (header : LoopHeader) (body : Block)

/-- **A block:** nodes that run one after the other. -/
inductive Block where
  /-- No node. -/
  | nil
  /-- A node and those behind it. -/
  | cons (head : Node) (tail : Block)

/-- **The alternatives of a condition.** -/
inductive Branches where
  /-- No alternative. -/
  | none
  /-- A block for the case that no condition holds. -/
  | otherwise (body : Block)
  /-- A block under a condition, and the alternatives behind it. -/
  | elseIf (condition : String) (body : Block) (rest : Branches)

end

namespace Block

/-- A block of nodes that were read last to first. -/
def ofReversed (nodes : List Node) (tail : Block := .nil) : Block :=
  nodes.foldl (fun block node => .cons node block) tail

/-- The nodes of a block. -/
def toList : Block → List Node
  | .nil => []
  | .cons head tail => head :: toList tail

end Block

/-! ## Open constructs -/

/-- The branches of an open condition that are complete, the last one first, each under its
condition. -/
abbrev DoneBranches := List (String × Block)

/-- What an open construct is. -/
inductive Opened where
  /-- A scope. -/
  | scope (entry : ScopeEntry)
  /-- A loop. -/
  | loop (header : LoopHeader)
  /-- A condition, with the branches that are complete and the condition of the present one; the
  last alternative has none. -/
  | branch (done : DoneBranches) (condition : Option String)

/-- An open construct, with the nodes that stand before it, the last one first. -/
structure Level where
  /-- What is open. -/
  opened : Opened
  /-- The nodes before it. -/
  before : List Node

namespace Opened

/-- The alternatives behind the first branch of a condition. -/
def alternatives : DoneBranches → Branches → Branches
  | [], rest => rest
  | (condition, body) :: done, rest => alternatives done (.elseIf condition body rest)

/-- A condition whose branches are complete, as a node.  `done` begins with the last one. -/
def branchNode (done : DoneBranches) (condition : Option String) (body : Block) : Node :=
  let last : Branches := match condition with
    | some condition => .elseIf condition body .none
    | none => .otherwise body
  match alternatives done last with
  | .elseIf condition body rest => .branch condition body rest
  | .otherwise body => .branch "" .nil (.otherwise body)
  | .none => .branch "" .nil .none

/-- The fault of a construct that something else ends. -/
def openFault : Opened → BlockFault
  | scope _ => .openInScope
  | loop _ => .openLoop
  | branch _ _ => .openBranch

end Opened

/-! ## Building -/

/-- The tree of instructions, given the nodes read in the innermost construct, the last one
first, and the open constructs, innermost first. -/
def buildBlock (classify : String → Fragment) :
    List Node → List Level → Program → Except BlockFault Block
  | nodes, [], [] => .ok (.ofReversed nodes)
  | _, level :: _, [] => .error level.opened.openFault
  | nodes, levels, .step s :: rest => buildBlock classify (.step s :: nodes) levels rest
  | nodes, levels, .enterScope entry :: rest =>
    buildBlock classify [] (⟨.scope entry, nodes⟩ :: levels) rest
  | nodes, levels, .exitScope :: rest =>
    match levels with
    | [] => .error .strayExit
    | ⟨.scope entry, before⟩ :: levels =>
      buildBlock classify (.scope entry (.ofReversed nodes) :: before) levels rest
    | ⟨opened, _⟩ :: _ => .error opened.openFault
  | nodes, levels, .exec fragment :: rest =>
    match classify fragment with
    | .simple => buildBlock classify (.exec fragment :: nodes) levels rest
    | .openBranch condition =>
      buildBlock classify [] (⟨.branch [] (some condition), nodes⟩ :: levels) rest
    | .openLoop header => buildBlock classify [] (⟨.loop header, nodes⟩ :: levels) rest
    | .alternative next =>
      match levels with
      | [] | ⟨.loop _, _⟩ :: _ => .error .strayElse
      | ⟨.scope _, _⟩ :: _ => .error .openInScope
      | ⟨.branch _ none, _⟩ :: _ => .error .elseAfterElse
      | ⟨.branch done (some condition), before⟩ :: levels =>
        buildBlock classify []
          (⟨.branch ((condition, .ofReversed nodes) :: done) next, before⟩ :: levels) rest
    | .close =>
      match levels with
      | [] => .error .strayClose
      | ⟨.scope _, _⟩ :: _ => .error .openInScope
      | ⟨.loop header, before⟩ :: levels =>
        buildBlock classify (.loop header (.ofReversed nodes) :: before) levels rest
      | ⟨.branch done condition, before⟩ :: levels =>
        buildBlock classify (Opened.branchNode done condition (.ofReversed nodes) :: before) levels
          rest

/-- **The tree of a program,** unless its blocks do not nest. -/
def Block.ofProgram (classify : String → Fragment) (program : Program) :
    Except BlockFault Block := buildBlock classify [] [] program

end Stencil
