import Stencil.Text.Blank
import Stencil.Text.Search

/-!
# Tags and segments

Template text is cut into literal segments and tags.  The cut does not look inside the tags: with
the delimiter `%`, the text `<% if (a) { %>` becomes the three segments `<%`, ` if (a) { ` and `%>`.

## Main definitions

* `Stencil.Tag` — the nine tags, and `Stencil.Tag.text`, how each is written.
* `Stencil.Tag.match?` — the tag that a text begins with.
* `Stencil.Segment` — a literal text or a tag, with its place in the template.
* `Stencil.Segment.split` — the segments of a template text.
* `Stencil.Delimiter.isValid` — the characters that may delimit tags.

## Main results

* `Tag.match?_eq_append` — a matched tag and what follows it make up the text.
* `Piece.flatMap_text_split`, `Segment.join_split` — the pieces, and the segments, make up the text.

## Design

`Piece` is a segment without its place.  `Piece.split` is a fold from the left: it carries the
literal read so far, in reverse, and gives it out when a tag begins or the text ends.  Places are
added afterwards, in encoded bytes.
-/

set_option relaxedAutoImplicit false
set_option autoImplicit false

namespace Stencil

/-- **A tag,** shown here for the delimiter `%`. -/
inductive Tag where
  /-- `<%` opens a code region. -/
  | openCode
  /-- `<%_` opens a code region and eats the spaces and tabs before it. -/
  | openSlurp
  /-- `<%=` opens an expression whose value is escaped. -/
  | openEscaped
  /-- `<%-` opens an expression whose value is not escaped. -/
  | openRaw
  /-- `<%#` opens a comment. -/
  | openComment
  /-- `<%%` stands for the text `<%`. -/
  | literal
  /-- `%>` closes a region. -/
  | close
  /-- `-%>` closes a region and takes away the line break behind it. -/
  | closeTrim
  /-- `_%>` closes a region and eats the spaces, the tabs and the line break behind it. -/
  | closeSlurp
  deriving DecidableEq, Repr

namespace Tag

/-- **How a tag is written** with a delimiter. -/
def text (d : Char) : Tag → List Char
  | openCode => ['<', d]
  | openSlurp => ['<', d, '_']
  | openEscaped => ['<', d, '=']
  | openRaw => ['<', d, '-']
  | openComment => ['<', d, '#']
  | literal => ['<', d, d]
  | close => [d, '>']
  | closeTrim => ['-', d, '>']
  | closeSlurp => ['_', d, '>']

/-- The tags that open a region, which has to be closed. -/
def isOpener : Tag → Bool
  | openCode | openSlurp | openEscaped | openRaw | openComment => true
  | _ => false

/-- The tags that close a region. -/
def isCloser : Tag → Bool
  | close | closeTrim | closeSlurp => true
  | _ => false

/-- The openers behind which directives are recognised. -/
def acceptsDirective : Tag → Bool
  | openCode | openSlurp | openRaw => true
  | _ => false

/-- All tags, in the order in which they are tried.  A longer tag comes before the tag that it
begins with. -/
def all : List Tag :=
  [literal, openEscaped, openRaw, openSlurp, openComment, openCode, close, closeTrim, closeSlurp]

/-- **The tag that a text begins with,** and what follows it. -/
def match? (d : Char) (s : List Char) : Option (Tag × List Char) :=
  all.findSome? fun tag => (Text.dropPrefix? (tag.text d) s).map fun rest => (tag, rest)

/-- No tag is empty. -/
theorem text_ne_nil (d : Char) (tag : Tag) : tag.text d ≠ [] := by
  cases tag <;> simp [text]

/-- A matched tag and what follows it make up the text. -/
theorem match?_eq_append {d : Char} {s rest : List Char} {tag : Tag}
    (h : match? d s = some (tag, rest)) : s = tag.text d ++ rest := by
  obtain ⟨t, -, ht⟩ := List.exists_of_findSome?_eq_some h
  simp only [Option.map_eq_some_iff, Prod.mk.injEq] at ht
  obtain ⟨r, hr, rfl, rfl⟩ := ht
  exact Text.dropPrefix?_eq_some_iff.1 hr

/-- What follows a matched tag is shorter than the text. -/
theorem length_lt_of_match? {d : Char} {s rest : List Char} {tag : Tag}
    (h : match? d s = some (tag, rest)) : rest.length < s.length := by
  have hs := match?_eq_append h
  have hpos := List.length_pos_iff.2 (text_ne_nil d tag)
  rw [hs, List.length_append]
  omega

end Tag

/-! ## Delimiters -/

/-- **The characters that may delimit tags:** neither white space nor one of the characters that
tags are made of. -/
def Delimiter.isValid (d : Char) : Bool :=
  !(Text.isBlank d || ['<', '>', '-', '_', '=', '#'].contains d)

/-! ## Segments -/

/-- A literal text or a tag. -/
inductive Piece where
  /-- Text without any tag. -/
  | literal (text : List Char)
  /-- A tag. -/
  | tag (t : Tag)
  deriving DecidableEq, Repr

namespace Piece

/-- How a piece is written. -/
def text (d : Char) : Piece → List Char
  | literal s => s
  | tag t => t.text d

/-- The literal read so far as a piece, unless it is empty. -/
def flush (pending : List Char) : List Piece :=
  if pending.isEmpty then [] else [.literal pending.reverse]

/-- The pieces of a text, when `pending` is the literal read so far, in reverse, and the next
`skip` characters belong to the tag that was read last. -/
def splitAfter (d : Char) (pending : List Char) : Nat → List Char → List Piece
  | _, [] => flush pending
  | skip + 1, _ :: rest => splitAfter d pending skip rest
  | 0, c :: rest =>
    match Tag.match? d (c :: rest) with
    | some (t, _) => flush pending ++ .tag t :: splitAfter d [] ((t.text d).length - 1) rest
    | none => splitAfter d (c :: pending) 0 rest

/-- The pieces of a text. -/
def split (d : Char) (s : List Char) : List Piece := splitAfter d [] 0 s

/-- What is flushed is written as the characters that were pending. -/
theorem flatMap_text_flush (d : Char) (pending : List Char) :
    (flush pending).flatMap (text d) = pending.reverse := by
  unfold flush
  split <;> simp_all [text]

/-- The pieces make up the literal read so far and the text behind what is skipped. -/
theorem flatMap_text_splitAfter (d : Char) (pending : List Char) (skip : Nat) (s : List Char) :
    (splitAfter d pending skip s).flatMap (text d) = pending.reverse ++ s.drop skip := by
  induction s generalizing pending skip with
  | nil => simp [splitAfter, flatMap_text_flush]
  | cons c rest ih =>
    cases skip with
    | succ skip => simp [splitAfter, ih]
    | zero =>
      simp only [splitAfter]
      split
      · rename_i t behind hmatch
        have hs := Tag.match?_eq_append hmatch
        cases htag : t.text d with
        | nil => exact absurd htag (Tag.text_ne_nil d t)
        | cons a tail =>
          simp only [htag, List.cons_append, List.cons.injEq] at hs
          have hdrop : rest.drop tail.length = behind := by simp [hs.2]
          simpa [flatMap_text_flush, ih, text, htag, hs.1, hdrop] using hs.2.symm
      · simp [ih]

/-- The pieces make up the text. -/
theorem flatMap_text_split (d : Char) (s : List Char) : (split d s).flatMap (text d) = s := by
  simp [split, flatMap_text_splitAfter]

end Piece

/-- **A segment of a template text.** -/
structure Segment where
  /-- The text of the segment, as written. -/
  text : String
  /-- Where the segment begins in the template, in encoded bytes. -/
  offset : Nat
  /-- The tag, unless the segment is literal. -/
  tag : Option Tag
  deriving DecidableEq, Repr

namespace Segment

/-- The number of line breaks in a segment. -/
def newlines (s : Segment) : Nat := Text.countNewlines s.text.toList

/-- Pieces with their places, the first of them at the given offset. -/
def locate (d : Char) : Nat → List Piece → List Segment
  | _, [] => []
  | offset, piece :: rest =>
    let text := String.ofList (piece.text d)
    let tag := match piece with
      | .literal _ => none
      | .tag t => some t
    ⟨text, offset, tag⟩ :: locate d (offset + text.utf8ByteSize) rest

/-- **The segments of a template text.** -/
def split (d : Char) (s : String) : List Segment := locate d 0 (Piece.split d s.toList)

/-- Pieces keep their texts when they get their places. -/
theorem map_text_locate (d : Char) (offset : Nat) (pieces : List Piece) :
    (locate d offset pieces).map text = pieces.map fun p => String.ofList (p.text d) := by
  induction pieces generalizing offset with
  | nil => rfl
  | cons piece rest ih => simp [locate, ih]

/-- The segments make up the text. -/
theorem join_split (d : Char) (s : String) : String.join ((split d s).map text) = s := by
  apply String.toList_inj.1
  have h := Piece.flatMap_text_split d s.toList
  simpa [split, map_text_locate, String.toList_join, List.flatMap_map] using h

end Segment

end Stencil
