import Stencil.Script.Fault
import Stencil.Template.Program
import Stencil.Text.Search

/-!
# Failures of rendering

A fault in the code of a template, and where it arose: the template, the line, and the lines
around it.

## Main definitions

* `Stencil.excerpt` — the lines of a text around one of them.
* `Stencil.Place` — where a fault arose.
* `Stencil.Failure` — a fault with its place, and `Stencil.Failure.message`, its wording.
-/

set_option relaxedAutoImplicit false
set_option autoImplicit false

namespace Stencil

/-! ## Excerpts -/

/-- The number of lines shown before the line that an excerpt is about. -/
def linesBefore : Nat := 2

/-- The number of lines shown behind the line that an excerpt is about. -/
def linesBehind : Nat := 3

/-- A line of an excerpt, with its number.  A mark stands before the line that the excerpt is
about. -/
def numberedLine (line : Nat) (number : Nat) (text : List Char) : String :=
  (if number = line then " >> " else "    ") ++ String.ofList (Nat.toDigits 10 number) ++ "| " ++
    String.ofList text

/-- **The lines of a text around a line,** which is counted from one. -/
def excerpt (text : String) (line : Nat) : String :=
  let lines := Text.lines text.toList
  let skipped := line - (linesBefore + 1)
  let shown := (lines.take (line + linesBehind)).drop skipped
  String.intercalate "\n" ((shown.zipIdx (skipped + 1)).map fun (text, number) =>
    numberedLine line number text)

/-! ## Failures -/

/-- **Where a fault arose.** -/
structure Place where
  /-- The template. -/
  origin : Origin
  /-- The line, counted from one. -/
  line : Nat
  deriving DecidableEq, Repr

/-- **A fault of rendering.** -/
structure Failure where
  /-- What went wrong. -/
  fault : Script.Fault
  /-- Where it went wrong, if that is known. -/
  place : Option Place

/-- **The wording of a failure:** the place, the lines around it and the fault. -/
def Failure.message (f : Failure) : String :=
  match f.place with
  | none => f.fault.message
  | some place =>
    place.origin.filename ++ ":" ++ String.ofList (Nat.toDigits 10 place.line) ++ "\n" ++
      excerpt place.origin.text place.line ++ "\n\n" ++ f.fault.message

end Stencil
