import Stencil.Text.Escaped
import Stencil.Decimal.Shortest

/-!
# Programs

A compiled template is a list of instructions.  Code from the template is carried as text; only
rendering reads it.

## Main definitions

* `Stencil.Step`, `Stencil.Instruction`, `Stencil.Program` — what compiling produces.
* `Stencil.Program.listing` — a program written as the body of a function.
-/

set_option relaxedAutoImplicit false
set_option autoImplicit false

namespace Stencil

/-- Where code comes from: the name of a template and its text. -/
structure Origin where
  /-- The name that is shown in reports. -/
  filename : String
  /-- The text of the template, in normal form. -/
  text : String
  deriving DecidableEq, Repr

/-- A scope that an include opens. -/
structure ScopeEntry where
  /-- Expressions whose members become bindings; later ones win. -/
  params : List String
  /-- Whether the bindings of the surrounding template are hidden. -/
  isolated : Bool
  /-- The included template. -/
  origin : Option Origin
  deriving DecidableEq, Repr

/-- **A step that stands for itself:** it neither opens nor closes anything that other instructions
belong to. -/
inductive Step where
  /-- Append a text. -/
  | append (text : String)
  /-- Append the value of an expression, escaped. -/
  | appendEscaped (expr : String)
  /-- Append the value of an expression. -/
  | appendRaw (expr : String)
  /-- What follows belongs to this line of the template. -/
  | line (number : Nat)
  /-- Send the output to a block from here on. -/
  | beginCapture (params : String)
  /-- Record that block, and send the output where it went before. -/
  | endCapture
  deriving DecidableEq, Repr

/-- **An instruction.** -/
inductive Instruction where
  /-- A step. -/
  | step (s : Step)
  /-- Run a fragment of code, which may open or close a block. -/
  | exec (fragment : String)
  /-- Enter the scope of an included template. -/
  | enterScope (entry : ScopeEntry)
  /-- Leave the scope entered last. -/
  | exitScope
  deriving DecidableEq, Repr

namespace Instruction

/-- Append a text. -/
abbrev append (text : String) : Instruction := .step (.append text)

/-- Append the value of an expression, escaped. -/
abbrev appendEscaped (expr : String) : Instruction := .step (.appendEscaped expr)

/-- Append the value of an expression. -/
abbrev appendRaw (expr : String) : Instruction := .step (.appendRaw expr)

/-- What follows belongs to this line of the template. -/
abbrev line (number : Nat) : Instruction := .step (.line number)

/-- Send the output to a block. -/
abbrev beginCapture (params : String) : Instruction := .step (.beginCapture params)

/-- Record a block. -/
abbrev endCapture : Instruction := .step .endCapture

end Instruction

/-- **A program.** -/
abbrev Program := List Instruction

namespace Program

/-- A line of a listing. -/
def entry (s : String) : String := "    ; " ++ s ++ "\n"

/-- The line of a step. -/
def listStep : Step → String
  | .append text => entry ("__append(\"" ++ Text.escapeLiteral text ++ "\")")
  | .appendEscaped expr => entry ("__append(escape(" ++ expr ++ "))")
  | .appendRaw expr => entry ("__append(" ++ expr ++ ")")
  | .line number => entry ("__line = " ++ String.ofList (Decimal.digitsOf number))
  | .beginCapture params =>
    entry ("var __capture = \x7b params: " ++ params ++
      ", html: [] \x7d, __main = __append; " ++
      "__append = function (o) \x7b __capture.html.push(o) \x7d")
  | .endCapture => entry "__append = __main; includeAt(__capture, includeAtarray)"

/-- The lines that enter a scope: a function, and a block for each of the parameters. -/
def listEnter (scope : ScopeEntry) : String :=
  entry "(function()\x7b" ++
    String.join (scope.params.map fun p => "  with (" ++ p ++ " || \x7b\x7d) \x7b\n")

/-- The lines that leave a scope with a number of blocks. -/
def listExit (blocks : Nat) : String :=
  String.join (List.replicate blocks "  \x7d\n") ++ entry "\x7d)()"

/-- The lines of a program, inside scopes that hold the given numbers of blocks. -/
def listFrom (scopes : List Nat) : Program → String
  | [] => ""
  | .step s :: rest => listStep s ++ listFrom scopes rest
  | .exec fragment :: rest => entry fragment ++ listFrom scopes rest
  | .enterScope scope :: rest =>
    listEnter scope ++ listFrom (scope.params.length :: scopes) rest
  | .exitScope :: rest => listExit (scopes.head?.getD 0) ++ listFrom scopes.tail rest

/-- **A program written as the body of a function.** -/
def listing (program : Program) : String := listFrom [] program

end Program

end Stencil
