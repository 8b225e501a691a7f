import Stencil.Block.Header
import Stencil.Script.Exec
import Stencil.Script.Expr.Parser

/-!
# Evaluators

What rendering needs to know of the language that templates are written in.  Everything else treats
code as text.

## Main definitions

* `Stencil.Evaluator` — a language.
* `Stencil.Evaluator.script` — the script language of this library.
-/

set_option relaxedAutoImplicit false
set_option autoImplicit false

namespace Stencil

open Script

/-- **A language for the code in templates.** -/
structure Evaluator where
  /-- The value of an expression. -/
  evaluate : String → Eval Value
  /-- A fragment run with some fuel. -/
  execute : Nat → String → Run Unit
  /-- How a fragment takes part in blocks. -/
  classify : String → Fragment := Fragment.classify
  /-- The text of a value in the output. -/
  display : Value → String := Value.display

/-- **The script language,** with functions that the host registers. -/
def Evaluator.script (functions : Functions := []) : Evaluator where
  evaluate code := do
    let e ← Eval.ofExcept (Expr.ofText code)
    eval functions e
  execute fuel code := do
    let body ← Run.ofEval (.ofExcept (Stmt.listOfText code))
    execList functions fuel body

end Stencil
