import Stencil.Path
import Stencil.Template.Segment

/-!
# Errors of compiling

Why a template has no program.  An error is a cause; its wording is in one place.

## Main definitions

* `Stencil.UnclosedTag` — an opening tag that nothing closes, and where it stands.
* `Stencil.CompileError` — why compiling failed, and `Stencil.CompileError.message`, its wording.
* `Stencil.Segment.splitChecked` — the segments of a text, if its delimiter can be used.
-/

set_option relaxedAutoImplicit false
set_option autoImplicit false

namespace Stencil

/-! ## Places -/

/-- A text cut at a number of encoded bytes, where a character begins. -/
def Text.splitAtByte : Nat → List Char → List Char × List Char
  | 0, s => ([], s)
  | _ + 1, [] => ([], [])
  | n + 1, c :: s =>
    let (before, after) := splitAtByte (n + 1 - c.utf8Size) s
    (c :: before, after)

/-- The two halves of a text make it up. -/
theorem Text.append_splitAtByte (n : Nat) (s : List Char) :
    (splitAtByte n s).1 ++ (splitAtByte n s).2 = s := by
  induction s generalizing n with
  | nil => cases n <;> simp [splitAtByte]
  | cons c s ih => cases n <;> simp [splitAtByte, ih]

/-- **An opening tag that nothing closes.** -/
structure UnclosedTag where
  /-- The tag, as written. -/
  tag : String
  /-- Where it begins, in encoded bytes. -/
  offset : Nat
  /-- The template that it stands in. -/
  path : Option Path
  /-- The text of that template, in normal form. -/
  text : String
  deriving DecidableEq, Repr

namespace UnclosedTag

/-- The text before the tag. -/
def before (u : UnclosedTag) : List Char := (Text.splitAtByte u.offset u.text.toList).1

/-- The text from the tag on. -/
def rest (u : UnclosedTag) : String :=
  String.ofList (Text.splitAtByte u.offset u.text.toList).2

/-- The line of the tag, counted from one. -/
def line (u : UnclosedTag) : Nat := Text.countNewlines u.before + 1

/-- The characters that end a line of a report. -/
def lineEnds : List Char :=
  ['\r', '\n', '\x0b', '\x0c', '\u0085', '\u2028', '\u2029']

/-- The line and the column behind a text, both counted from one, when it begins at the given
ones.  A carriage return and a line feed behind it end one line together. -/
def advance : Nat × Nat → List Char → Nat × Nat
  | place, [] => place
  | (line, _), '\r' :: '\n' :: rest => advance (line + 1, 1) rest
  | (line, column), c :: rest =>
    advance (if lineEnds.contains c then (line + 1, 1) else (line, column + 1)) rest

/-- The line and the column of the tag in a report, where every kind of line end counts. -/
def position (u : UnclosedTag) : Nat × Nat := advance (1, 1) u.before

end UnclosedTag

/-! ## Causes -/

/-- **Why compiling failed.** -/
inductive CompileError where
  /-- An opening tag that nothing closes. -/
  | unclosedTag (tag : UnclosedTag)
  /-- An operation needs the path of the template, and there is none. -/
  | missingPath (operation : String)
  /-- There is no component of this name. -/
  | unknownComponent (name : String)
  /-- A template cannot be read. -/
  | unreadableSource (path : Path) (reason : String)
  /-- An included template cannot be read. -/
  | unreadableInclude (path : Path) (reason : String)
  /-- A template includes itself, directly or through others; the templates on the way, outermost
  first, and the template again. -/
  | cyclicInclude (path : Path) (chain : List Path)
  /-- Includes are nested in each other too deep to be followed. -/
  | nestedTooDeep
  /-- A character that cannot delimit tags. -/
  | invalidDelimiter (delimiter : Char)
  deriving DecidableEq, Repr

namespace CompileError

/-- Whether compiling can go on without what failed. -/
def isRecoverable : CompileError → Bool
  | unknownComponent _ => true
  | _ => false

/-- A delimiter in quotes.  White space is shown as an escape, a plain space as itself. -/
def quoteDelimiter (d : Char) : String :=
  let inside :=
    if d = '\t' then "\\t"
    else if d = '\n' then "\\n"
    else if d = '\r' then "\\r"
    else if d ≠ ' ' && Text.isBlank d then
      "\\u\x7b" ++ String.ofList (Nat.toDigits 16 d.toNat) ++ "\x7d"
    else String.singleton d
  "'" ++ inside ++ "'"

/-- **The wording of an error.** -/
def message : CompileError → String
  | unclosedTag tag =>
    "Could not find matching close tag for \"" ++ tag.tag ++ "\" (line " ++
      String.ofList (Nat.toDigits 10 tag.line) ++ ")"
  | missingPath operation => "`" ++ operation ++ "` requires the 'source_path' option"
  | unknownComponent name => "Component not found: " ++ name
  | unreadableSource path reason => "Failed to read template " ++ path.text ++ ": " ++ reason
  | unreadableInclude path reason =>
    "Failed to read included template " ++ path.text ++ ": " ++ reason
  | cyclicInclude path chain =>
    "Cyclic include of " ++ path.text ++ ": " ++ String.intercalate " -> " (chain.map Path.text)
  | nestedTooDeep => "includes are nested too deep"
  | invalidDelimiter d =>
    "Invalid delimiter " ++ quoteDelimiter d ++
      ": tag brackets, modifiers and whitespace are not allowed"

end CompileError

/-- **The segments of a text,** unless the delimiter cannot delimit tags. -/
def Segment.splitChecked (delimiter : Char) (text : String) : Except CompileError (List Segment) :=
  if Delimiter.isValid delimiter then .ok (split delimiter text)
  else .error (.invalidDelimiter delimiter)

end Stencil
