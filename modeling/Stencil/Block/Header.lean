import Stencil.Text.Blank
import Stencil.Text.Search

/-!
# Block headers

A fragment of code may be complete, or it may open a block that another fragment closes.  Which of
them it is shows in its shape alone.

## Main definitions

* `Stencil.LoopHeader` — the head of a loop.
* `Stencil.Fragment` — how a fragment takes part in blocks.
* `Stencil.Fragment.classify` — how a fragment takes part in blocks, by its shape.

## Design

The shapes are tried in a fixed order on the fragment without the white space around it.  Most of
them begin with a keyword and an opening parenthesis and end with `) {`; what stands between those
is not read, only cut at semicolons or behind the keyword of an iteration.
-/

set_option relaxedAutoImplicit false
set_option autoImplicit false

namespace Stencil

/-- **The head of a loop** that a fragment opens. -/
inductive LoopHeader where
  /-- A loop while a condition holds. -/
  | whileLoop (condition : String)
  /-- A loop over elements. -/
  | forOf (binding iterable : String)
  /-- A loop over keys. -/
  | forIn (binding object : String)
  /-- A loop with a counter. -/
  | counted (start condition update : Option String)
  /-- A callback for every element of a list. -/
  | forEach (iterable item : String) (index : Option String)
  deriving DecidableEq, Repr

/-- **How a fragment takes part in blocks.** -/
inductive Fragment where
  /-- It is complete. -/
  | simple
  /-- It opens a condition. -/
  | openBranch (condition : String)
  /-- It opens a loop. -/
  | openLoop (header : LoopHeader)
  /-- It goes on with another alternative, possibly under a condition. -/
  | alternative (condition : Option String)
  /-- It closes a block. -/
  | close
  deriving DecidableEq, Repr

namespace Fragment

open Text

/-! ## Pieces of a shape -/

/-- A fragment without the white space around it. -/
def trimmed (s : List Char) : String := String.ofList (trim s)

/-- A part that may be empty. -/
def part? (s : List Char) : Option String := if (trim s).isEmpty then none else some (trimmed s)

/-- The text behind a character, which white space may stand before. -/
def afterChar? (c : Char) (s : List Char) : Option (List Char) :=
  match trimStart s with
  | x :: rest => if x = c then some rest else none
  | [] => none

/-- The text behind a character, if it is there. -/
def skipChar (c : Char) (s : List Char) : List Char :=
  match s with
  | x :: rest => if x = c then rest else s
  | [] => []

/-- The text behind a word and the white space after it, of which there is some. -/
def afterWord? (word : String) (s : List Char) : Option (List Char) :=
  (dropPrefix? word.toList s).bind fun rest =>
    if rest.head?.any isBlank then some (trimStart rest) else none

/-- What stands before the `) {` at the end of a text. -/
def beforeBody? (s : List Char) : Option (List Char) :=
  match s.reverse with
  | '\x7b' :: rest =>
    match trimStart rest with
    | ')' :: inside => some inside.reverse
    | _ => none
  | _ => none

/-- What stands in the parentheses of a shape that begins with a keyword. -/
def inParens? (keyword : String) (s : List Char) : Option (List Char) :=
  ((dropPrefix? keyword.toList s).bind (afterChar? '(')).bind beforeBody?

/-- The characters that a name begins with. -/
def isNameStart (c : Char) : Bool := isAsciiLetter c || c == '_' || c == '$'

/-- The characters that a name goes on with. -/
def isNamePart (c : Char) : Bool := isWordChar c || c == '$'

/-- The name that a text begins with, and the text behind it. -/
def name? (s : List Char) : Option (List Char × List Char) :=
  match s with
  | c :: rest =>
    if isNameStart c then some (c :: rest.takeWhile isNamePart, rest.dropWhile isNamePart)
    else none
  | [] => none

/-! ## Shapes -/

/-- `}`, `})` or `});` -/
def isClose (s : List Char) : Bool :=
  match s with
  | '\x7d' :: rest => (skipChar ';' (trimStart (skipChar ')' (trimStart rest)))).isEmpty
  | _ => false

/-- `} else {` -/
def isElse (s : List Char) : Bool :=
  match (afterChar? '\x7d' s).bind fun rest => dropPrefix? "else".toList (trimStart rest) with
  | some rest => trimStart rest = ['\x7b']
  | none => false

/-- `} else if (condition) {` -/
def elseIf? (s : List Char) : Option (List Char) :=
  match s with
  | '\x7d' :: rest => (afterWord? "else" (trimStart rest)).bind (inParens? "if")
  | _ => none

/-- The binding of an iteration, and what is visited: a name, the keyword of the iteration
between white space, and the rest. -/
def bindingBefore? (keyword : String) (s : List Char) : Option (String × String) :=
  match name? s with
  | none => none
  | some (binding, rest) =>
    if rest.head?.any isBlank then
      (afterWord? keyword (trimStart rest)).map fun source =>
        (String.ofList binding, trimmed source)
    else none

/-- The kinds of declarations that a binding may begin with. -/
def declarators : List String := ["var", "let", "const"]

/-- `for (const binding of source) {`, or the same with another keyword or without a
declaration. -/
def iteration? (keyword : String) (s : List Char) : Option (String × String) :=
  (inParens? "for" s).bind fun inside =>
    let inside := trimStart inside
    let declared := declarators.findSome? fun word =>
      (afterWord? word inside).bind (bindingBefore? keyword)
    declared.orElse fun _ => bindingBefore? keyword inside

/-- `for (start; condition; update) {` -/
def counted? (s : List Char) : Option LoopHeader :=
  (inParens? "for" s).bind fun inside =>
    match splitOn [';'] inside with
    | [start, condition, update] => some (.counted (part? start) (part? condition) (part? update))
    | _ => none

/-- The rest of a callback's head behind its keyword: one name or two, in parentheses or not,
and an arrow or none. -/
def callback? (s : List Char) : Option (String × Option String) :=
  match name? (trimStart (skipChar '(' s)) with
  | none => none
  | some (item, rest) =>
    let (index, rest) := match trimStart rest with
      | ',' :: more =>
        match name? (trimStart more) with
        | some (index, rest) => (some (String.ofList index), trimStart rest)
        | none => (none, ',' :: more)
      | rest => (none, rest)
    let rest := trimStart (skipChar ')' rest)
    let rest := match rest with
      | '=' :: '>' :: more => trimStart more
      | rest => rest
    if rest = ['\x7b'] then some (String.ofList item, index) else none

/-- The head of a callback behind its opening parenthesis. -/
def callbackHead? (s : List Char) : Option (String × Option String) :=
  let s := trimStart s
  ((dropPrefix? "function".toList s).bind fun rest => callback? (trimStart rest)).orElse fun _ =>
    callback? s

/-- `list.forEach(function (item, index) {`, when `before` is the part of the list that has been
read, in reverse. -/
def forEachAfter? (before : List Char) : List Char → Option LoopHeader
  | [] => none
  | c :: rest =>
    let here :=
      if before.isEmpty then none
      else (dropPrefix? ".forEach(".toList (c :: rest)).bind callbackHead?
    match here with
    | some (item, index) => some (.forEach (trimmed before.reverse) item index)
    | none => forEachAfter? (c :: before) rest

/-- The head of a loop that a fragment opens, if it opens one. -/
def loop? (s : List Char) : Option LoopHeader :=
  [fun s => (inParens? "while" s).map fun inside => .whileLoop (trimmed inside),
    fun s => (iteration? "of" s).map fun (binding, source) => .forOf binding source,
    fun s => (iteration? "in" s).map fun (binding, source) => .forIn binding source,
    counted?,
    forEachAfter? []].findSome? fun shape => shape s

/-- **How a fragment takes part in blocks.** -/
def classify (code : String) : Fragment :=
  let s := trim code.toList
  if isClose s then .close
  else if isElse s then .alternative none
  else
    match elseIf? s with
    | some inside => .alternative (some (trimmed inside))
    | none =>
      match inParens? "if" s with
      | some inside => .openBranch (trimmed inside)
      | none =>
        match loop? s with
        | some header => .openLoop header
        | none => .simple

end Fragment

end Stencil
