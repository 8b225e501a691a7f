import Stencil.Data.Yaml.Scalar
import Stencil.Data.Yaml.Token

/-!
# The layout of YAML

A text is cut into tokens from left to right.  The columns of the blocks around a place are kept:
what stands further to the left closes blocks, and an item or a key further to the right opens one.

## Main definitions

* `Stencil.Yaml.Layout` — a place in a text, with the blocks around it.
* `Stencil.Yaml.Layout.next?` — the tokens at a place, and the place behind them.
* `Stencil.Yaml.tokens?` — all tokens of a text.

## Design

A scalar is a key when a colon follows on its line, which is looked up as soon as the scalar is
read.  So every token is final when it is written, and none is put in front of another later.
-/

set_option relaxedAutoImplicit false
set_option autoImplicit false

namespace Stencil.Yaml

/-- **A place in a text.** -/
structure Layout where
  /-- The text ahead. -/
  rest : List Char
  /-- The number of characters before it on its line. -/
  column : Nat := 0
  /-- The columns of the blocks around it, the innermost first. -/
  blocks : List Nat := []
  /-- Whether an item or a key may begin here: nothing else stands before it on its line. -/
  mayOpen : Bool := true

/-- How far apart a key and its colon may be, in characters. -/
def keyLimit : Nat := 1024

namespace Layout

/-- The place of the next token behind a place: white space, comments and line breaks are passed
over.  A tab does not stand before an item or a key. -/
def skipFrom (comment mayOpen : Bool) (column : Nat) : List Char → Bool × Nat × List Char
  | [] => (mayOpen, column, [])
  | c :: rest =>
    if isBreak c then skipFrom false true 0 rest
    else if comment || c == '#' then skipFrom true mayOpen (column + 1) rest
    else if c = ' ' ∨ (c = '\t' ∧ ¬ mayOpen) ∨ (c.toNat = 0xFEFF ∧ column = 0) then
      skipFrom false mayOpen (column + 1) rest
    else (mayOpen, column, c :: rest)

/-- The place of the next token. -/
def skip (l : Layout) : Layout :=
  let (mayOpen, column, rest) := skipFrom false l.mayOpen l.column l.rest
  { l with rest, column, mayOpen }

/-- The least indentation of a line that belongs to a scalar here. -/
def least (l : Layout) : Nat :=
  match l.blocks with
  | [] => 0
  | column :: _ => column + 1

/-- The blocks that begin at a column, and the token for a new one: there is one unless the
innermost block begins there already. -/
def enter (opening : Token) (column : Nat) (blocks : List Nat) : List Token × List Nat :=
  if blocks.head?.all (· < column) then ([opening], column :: blocks) else ([], blocks)

/-- The token of an indicator, and the token for the block that it belongs to. -/
def indicator? : Char → Option (Token × Token)
  | '-' => some (.listOpen, .item)
  | '?' => some (.mappingOpen, .key)
  | ':' => some (.mappingOpen, .value)
  | _ => none

/-- The place behind the colon of a key that was read from a column, if it is one. -/
def behindColon? (start : Nat) (s : Scalar) : Option (Nat × List Char) :=
  let blanks := s.rest.takeWhile Text.isSpaceOrTab
  match s.rest.dropWhile Text.isSpaceOrTab with
  | ':' :: rest =>
    let column := s.column + blanks.length
    if s.oneLine ∧ endsWord rest ∧ column ≤ start + keyLimit then some (column + 1, rest) else none
  | _ => none

/-- The tokens of a scalar at a place.  What stands at the column of a block has to be a key. -/
def ofScalar? (l : Layout) (s : Scalar) : Option (List Token × Layout) :=
  let token := Token.scalar s.text s.plain
  match if l.mayOpen then behindColon? l.column s else none with
  | some (column, rest) =>
    let (opening, blocks) := enter .mappingOpen l.column l.blocks
    some (opening ++ [.key, token, .value], { rest, column, blocks, mayOpen := false })
  | none =>
    if l.mayOpen ∧ l.blocks.head? = some l.column then none
    else some ([token], { l with rest := s.rest, column := s.column, mayOpen := s.newLine })

/-- The tokens at a place where a character stands that begins one. -/
def atChar? (l : Layout) (c : Char) (rest : List Char) : Option (List Token × Layout) :=
  match if endsWord rest then indicator? c else none with
  | some (opening, token) =>
    if l.mayOpen then
      let (opening, blocks) := enter opening l.column l.blocks
      some (opening ++ [token], { rest, column := l.column + 1, blocks })
    else none
  | none =>
    if isQuote c then (quotedScalar? c (l.column + 1) rest).bind l.ofScalar?
    else if beginsPlain c rest then (plainScalar? l.least l.column (c :: rest)).bind l.ofScalar?
    else none

/-- **The tokens at a place,** and the place behind them.  A directive is refused. -/
def next? (l : Layout) (c : Char) (rest : List Char) : Option (List Token × Layout) :=
  if l.column = 0 ∧ c = '%' then none
  else if l.column = 0 ∧ isMark (c :: rest) then
    let mark := if c = '-' then Token.documentStart else Token.documentEnd
    some (l.blocks.map (fun _ => .close) ++ [mark],
      { rest := rest.drop 2, column := 3, blocks := [], mayOpen := false })
  else
    let closed := l.blocks.takeWhile (l.column < ·)
    let inner := { l with blocks := l.blocks.dropWhile (l.column < ·) }
    (inner.atChar? c rest).map fun (tokens, l) => (closed.map (fun _ => .close) ++ tokens, l)

/-- The tokens from a place on.  Fuel bounds the number of steps. -/
def tokens? : Nat → Layout → Option (List Token)
  | 0, _ => none
  | fuel + 1, l =>
    let l := l.skip
    match l.rest with
    | [] => some (l.blocks.map fun _ => .close)
    | c :: rest =>
      match l.next? c rest with
      | none => none
      | some (tokens, l) => (tokens? fuel l).map (tokens ++ ·)

end Layout

/-- **The tokens of a text.**  A byte order mark may stand before it; a character that cannot be
shown is refused, also in a comment. -/
def tokens? (text : String) : Option (List Token) :=
  let s := match text.toList with
    | '\uFEFF' :: rest => rest
    | s => s
  if s.all isPrintable then Layout.tokens? (s.length + 1) { rest := unifyBreaks s } else none

end Stencil.Yaml
