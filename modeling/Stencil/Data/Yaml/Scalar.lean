import Stencil.Data.Yaml
import Stencil.Text.Blank
import Stencil.Text.Search

/-!
# Scalars of YAML

A scalar is plain or stands in quotes, and it may go on over several lines.

## Main definitions

* `Stencil.Yaml.isPrintable`, `Stencil.Yaml.unifyBreaks` — the characters of a text and its line
  breaks.
* `Stencil.Yaml.Gap` — what stands between two words of a scalar, and what is read for it.
* `Stencil.Yaml.plainScalar?`, `Stencil.Yaml.quotedScalar?` — the scalar that begins at a place.

## Design

White space at the end and at the beginning of a line does not belong to a scalar.  A single line
feed between two lines is read as a space, and of several the first one does not count.  The line
and the paragraph separator break lines too, but they are kept.
-/

set_option relaxedAutoImplicit false
set_option autoImplicit false

namespace Stencil.Yaml

/-! ## Characters -/

/-- **A character that a YAML text may hold.** -/
def isPrintable (c : Char) : Bool :=
  let n := c.toNat
  n == 9 || n == 10 || n == 13 || (0x20 ≤ n && n ≤ 0x7E) || n == 0x85 ||
    (0xA0 ≤ n && n ≤ 0xFFFD) || 0x10000 ≤ n

/-- **A text in which every line ends with a line feed,** where it ended with a carriage return, or
both of them, or the next-line control. -/
def unifyBreaks : List Char → List Char
  | [] => []
  | '\r' :: '\n' :: rest => '\n' :: unifyBreaks rest
  | c :: rest => (if c = '\r' || c.toNat = 0x85 then '\n' else c) :: unifyBreaks rest

/-- A line break: a line feed, or the line or the paragraph separator. -/
def isBreak (c : Char) : Bool := c == '\n' || c.toNat == 0x2028 || c.toNat == 0x2029

/-- Whether a word ends here: at white space, at a line break or at the end of the text. -/
def endsWord (s : List Char) : Bool := s.head?.all fun c => Text.isSpaceOrTab c || isBreak c

/-- Whether a mark between documents stands here.  It has to be at the beginning of a line. -/
def isMark (s : List Char) : Bool :=
  ["---", "..."].any fun mark => (Text.dropPrefix? mark.toList s).any endsWord

/-! ## Gaps -/

/-- **What was passed over** since the last character of a scalar. -/
inductive Gap where
  /-- White space of one line, the last character first. -/
  | blanks (s : List Char)
  /-- Line breaks: the first one, unless it was escaped, and the later ones, the last one first. -/
  | breaks (first : Option Char) (later : List Char)

namespace Gap

/-- A gap with one more character, which is white space or a line break. -/
def add (c : Char) : Gap → Gap
  | blanks s => if isBreak c then breaks (some c) [] else blanks (c :: s)
  | breaks first later => breaks first (if isBreak c then c :: later else later)

/-- What is read for a gap inside a scalar, the last character first. -/
def folded : Gap → List Char
  | blanks s => s
  | breaks first later =>
    if first = some '\n' then
      if later.isEmpty then [' '] else later
    else later ++ first.toList

/-- Whether a gap ends on another line than it began. -/
def crossesLine : Gap → Bool
  | blanks _ => false
  | breaks _ _ => true

end Gap

/-! ## Scalars -/

/-- A scalar that was read, and the place behind it. -/
structure Scalar where
  /-- The text. -/
  text : String
  /-- Whether it stands without quotes. -/
  plain : Bool
  /-- Whether the place behind it lies on the line on which it begins. -/
  oneLine : Bool
  /-- Whether a line break stands right before that place. -/
  newLine : Bool
  /-- The column of that place. -/
  column : Nat
  /-- The text behind the scalar. -/
  rest : List Char

/-- Whether a plain scalar ends in front of a character.  A comment has to be set off by white
space, and a colon ends the word that it follows. -/
def endsPlain (c : Char) (rest : List Char) (gap : Gap) (column : Nat) : Bool :=
  (c == ':' && endsWord rest) ||
    match gap with
    | .blanks [] => false
    | _ => c == '#' || (column == 0 && isMark (c :: rest))

/-- A plain scalar, of which `text` and a gap are read, the last character first.  Lines that
are not indented as far as `least` do not belong to it, and a tab cannot indent so far. -/
def plainFrom? (least : Nat) (text : List Char) (gap : Gap) (oneLine : Bool) (column : Nat) :
    List Char → Option Scalar
  | [] => some ⟨String.ofList text.reverse, true, oneLine, gap.crossesLine, column, []⟩
  | c :: rest =>
    if isBreak c then plainFrom? least text (gap.add c) false 0 rest
    else if Text.isSpaceOrTab c then
      if c = '\t' ∧ gap.crossesLine ∧ column < least then none
      else plainFrom? least text (gap.add c) oneLine (column + 1) rest
    else if endsPlain c rest gap column || (gap.crossesLine && column < least) then
      some ⟨String.ofList text.reverse, true, oneLine, gap.crossesLine, column, c :: rest⟩
    else plainFrom? least (c :: (gap.folded ++ text)) (.blanks []) oneLine (column + 1) rest

/-- **The plain scalar that begins at a place.** -/
def plainScalar? (least column : Nat) (s : List Char) : Option Scalar :=
  plainFrom? least [] (.blanks []) true column s

/-- The character of an escape with one letter. -/
def simpleEscape? (c : Char) : Option Char :=
  [('0', 0), ('a', 7), ('b', 8), ('t', 9), ('\t', 9), ('n', 10), ('v', 11), ('f', 12), ('r', 13),
    ('e', 27), (' ', 32), ('"', 34), ('/', 47), ('\\', 92), ('N', 0x85), ('_', 0xA0),
    ('L', 0x2028), ('P', 0x2029)].lookup c |>.map Char.ofNat

/-- The number of digits of an escape by code point. -/
def pointDigits? (c : Char) : Option Nat := [('x', 2), ('u', 4), ('U', 8)].lookup c

/-- The character with a code point in hexadecimal digits. -/
def charOfHex? (digits : List Char) : Option Char :=
  match digits.foldlM (fun n c => (Decimal.digitIn? 16 c).map fun d => 16 * n + d) 0 with
  | some n => if n.isValidChar then some (Char.ofNat n) else none
  | none => none

/-- The character of an escape, the text behind its backslash, and how many characters it takes
up there. -/
def escape? : List Char → Option (Char × Nat)
  | [] => none
  | c :: rest =>
    match simpleEscape? c, pointDigits? c with
    | some x, _ => some (x, 1)
    | none, some count =>
      let digits := rest.take count
      if digits.length < count then none else (charOfHex? digits).map fun x => (x, count + 1)
    | none, none => none

/-- A scalar in quotes, of which `text` and a gap are read, the last character first.  The next
`skip` characters belong to the escape that was read last.  A quote inside single quotes is written
twice, and inside double quotes a line break may be escaped. -/
def quotedFrom? (quote : Char) (text : List Char) (gap : Gap) (oneLine : Bool) (skip column : Nat) :
    List Char → Option Scalar
  | [] => none
  | c :: rest =>
    if 0 < skip then quotedFrom? quote text gap oneLine (skip - 1) (column + 1) rest
    else if isBreak c then quotedFrom? quote text (gap.add c) false 0 0 rest
    else if Text.isSpaceOrTab c then
      quotedFrom? quote text (gap.add c) oneLine 0 (column + 1) rest
    else if column = 0 ∧ isMark (c :: rest) then none
    else
      let text := gap.folded ++ text
      if c = quote then
        if quote = '\'' ∧ rest.head? = some quote then
          quotedFrom? quote (quote :: text) (.blanks []) oneLine 1 (column + 1) rest
        else some ⟨String.ofList text.reverse, false, oneLine, false, column + 1, rest⟩
      else if c = '\\' ∧ quote = '"' then
        match rest with
        | [] => none
        | e :: behind =>
          if isBreak e then quotedFrom? quote text (.breaks none []) false 0 0 behind
          else
            match escape? (e :: behind) with
            | some (x, width) =>
              quotedFrom? quote (x :: text) (.blanks []) oneLine (width - 1) (column + 2) behind
            | none => none
      else quotedFrom? quote (c :: text) (.blanks []) oneLine 0 (column + 1) rest

/-- Whether a character begins a scalar in quotes. -/
def isQuote (c : Char) : Bool := c == '"' || c == '\''

/-- **The scalar in quotes** whose first one stands right before a place. -/
def quotedScalar? (quote : Char) (column : Nat) (s : List Char) : Option Scalar :=
  quotedFrom? quote [] (.blanks []) true 0 column s

/-- Characters that no plain scalar begins with. -/
def indicators : List Char := "\t,[]\x7b\x7d#&*!|>'\"%@".toList ++ [Char.ofNat 0x60]

/-- Whether a plain scalar may begin with a character.  A dash, a question mark and a colon may,
unless the word ends with them. -/
def beginsPlain (c : Char) (rest : List Char) : Bool :=
  if c = '-' || c = '?' || c = ':' then !endsWord rest else !indicators.contains c

end Stencil.Yaml
