import Stencil.Template.Options
import Stencil.Template.Program
import Stencil.Template.Segment

/-!
# Modes

Segments are read in order.  A tag sets the mode in which the text behind it is read; a literal
segment becomes an instruction according to the mode it stands in.

## Main definitions

* `Stencil.Mode` — how the text behind a tag is read.
* `Stencil.Reader` — what is carried from one segment to the next.
* `Stencil.Reader.scan` — one segment: the reader after it, and the instructions it gives.
* `Stencil.closeLineComment`, `Stencil.outputExpression` — a fragment made safe to be followed by
  other code.
-/

set_option relaxedAutoImplicit false
set_option autoImplicit false

namespace Stencil

/-- **How the text behind an opening tag is read.** -/
inductive Mode where
  /-- As statements. -/
  | code
  /-- As an expression whose value is escaped. -/
  | escaped
  /-- As an expression whose value is not escaped. -/
  | raw
  /-- Not at all. -/
  | comment
  /-- As text behind an escaped delimiter. -/
  | literal
  deriving DecidableEq, Repr

/-- The mode that a tag sets; none for the tags that close a region. -/
def Mode.ofTag? : Tag → Option Mode
  | .openCode | .openSlurp => some .code
  | .openEscaped => some .escaped
  | .openRaw => some .raw
  | .openComment => some .comment
  | .literal => some .literal
  | .close | .closeTrim | .closeSlurp => none

/-! ## Fragments -/

/-- Whether the last line of a text has a line comment in it. -/
def endsInLineComment (s : List Char) : Bool :=
  Text.occursIn ['/', '/'] (s.reverse.takeWhile (· ≠ '\n'))

/-- **A fragment with its line comment closed.**  A line comment on the last line would swallow what
follows the fragment, so a line break ends it. -/
def closeLineComment (s : List Char) : List Char :=
  if endsInLineComment s then s ++ ['\n'] else s

/-- A text up to the semicolon that nothing but white space follows, or the whole text when
there is none. -/
def dropSemicolon : List Char → List Char
  | [] => []
  | c :: rest => if c = ';' ∧ Text.allBlank rest then [] else c :: dropSemicolon rest

/-- **The expression that a fragment holds.** -/
def outputExpression (s : List Char) : List Char :=
  Text.trim (dropSemicolon (closeLineComment s))

/-! ## Reading -/

/-- **What is carried from one segment to the next.** -/
structure Reader where
  /-- The mode; none between a closing tag and the next opening one. -/
  mode : Option Mode := none
  /-- Whether the tag read last takes away the line break behind it. -/
  truncate : Bool := false
  /-- The line on which the next segment begins. -/
  line : Nat := 1
  deriving DecidableEq, Repr

namespace Reader

/-- A text without its first line break, wherever that is. -/
def removeFirstNewline (s : List Char) : List Char := s.erase '\n'

/-- A text without a line break at its very beginning. -/
def dropLeadingNewline : List Char → List Char
  | '\n' :: rest => rest
  | s => s

/-- Output text.  A line break goes away behind a trimming tag, and at the beginning of the text
when white space is trimmed; a text of which nothing is left gives no instruction. -/
def output (options : Options) (r : Reader) (s : List Char) : Reader × Program :=
  let kept :=
    if r.truncate then removeFirstNewline s
    else if options.trimWhitespace then dropLeadingNewline s
    else s
  ({ r with truncate := false }, if kept.isEmpty then [] else [.append (String.ofList kept)])

/-- A literal segment, read in the present mode. -/
def scanText (options : Options) (r : Reader) (s : List Char) : Reader × Program :=
  match r.mode with
  | none | some .literal => r.output options s
  | some .code => (r, [.exec (String.ofList (closeLineComment s))])
  | some .escaped => (r, [.appendEscaped (String.ofList (outputExpression s))])
  | some .raw => (r, [.appendRaw (String.ofList (outputExpression s))])
  | some .comment => (r, [])

/-- A tag.  A closing tag behind an escaped delimiter is text. -/
def scanTag (options : Options) (r : Reader) (t : Tag) : Reader × Program :=
  if t.isCloser then
    let (r, program) :=
      if r.mode = some .literal then r.output options (t.text options.delimiter) else (r, [])
    ({ r with mode := none, truncate := t = .closeTrim || t = .closeSlurp }, program)
  else
    ({ r with mode := Mode.ofTag? t },
      if t = .literal then [.append (String.ofList (Tag.openCode.text options.delimiter))] else [])

/-- Line breaks that have been passed. -/
def advance (options : Options) (r : Reader) (count : Nat) : Reader × Program :=
  let line := r.line + count
  ({ r with line }, if count ≠ 0 && options.diagnostics then [.line line] else [])

/-- **One segment:** the reader after it, and the instructions it gives. -/
def scan (options : Options) (r : Reader) (s : Segment) : Reader × Program :=
  let text := s.text.toList
  let (r, program) := match s.tag with
    | some t => r.scanTag options t
    | none => r.scanText options (if options.dropBlank && Text.allBlank text then [] else text)
  let (r, marker) := r.advance options s.newlines
  (r, program ++ marker)

end Reader

end Stencil
