import Stencil.Template.Segment

/-!
# White space of a template

What happens to the white space of a template before it is cut into segments.  With trimming on,
carriage returns go and the white space at the edges of lines is removed; in any case the spaces and
tabs that a slurping tag stands next to are removed.

## Main definitions

* `Stencil.Whitespace.trimEdges` — the text without the white space at the edges of its lines.
* `Stencil.Whitespace.slurpBefore`, `slurpAfter` — the text without the spaces and tabs before, or
  behind, every occurrence of a tag.
* `Stencil.Whitespace.normalize` — all of it, as the options ask for.

## Design

White space is removed in runs, and line breaks are white space too.  A run that begins where a line
begins is removed whole, and so is one that ends the text; any other run is removed as far as its
last line break, which stays unless the run begins with it.  After a removal the next run begins
where the last one ended, and it begins a line if a line break was the last character removed.
-/

set_option relaxedAutoImplicit false
set_option autoImplicit false

namespace Stencil.Whitespace

/-- The length of the prefix that ends before the last line break; zero without any. -/
def beforeLastNewline (run : List Char) : Nat :=
  (run.reverse.dropWhile (· ≠ '\n')).length - 1

/-- How much is removed of the white space that a text begins with. -/
def removable (lineStart : Bool) (s : List Char) : Nat :=
  let run := s.takeWhile Text.isBlank
  if lineStart || run.length == s.length then run.length else beforeLastNewline run

/-- A text without the white space at the edges of its lines.  The next `skip` characters have
been found removable; `lineStart` tells whether a line begins here. -/
def trimFrom (lineStart : Bool) : Nat → List Char → List Char
  | _, [] => []
  | skip + 1, c :: rest => trimFrom (c == '\n') skip rest
  | 0, c :: rest =>
    match removable lineStart (c :: rest) with
    | 0 => c :: trimFrom (c == '\n') 0 rest
    | more + 1 => trimFrom (c == '\n') more rest

/-- **A text without the white space at the edges of its lines.** -/
def trimEdges (s : List Char) : List Char := trimFrom true 0 s

/-- **A text without the spaces and tabs before every occurrence of a tag.** -/
def slurpBefore (tag : List Char) : List Char → List Char
  | [] => []
  | c :: rest =>
    if Text.isSpaceOrTab c && Text.startsWith tag (rest.dropWhile Text.isSpaceOrTab) then
      slurpBefore tag rest
    else c :: slurpBefore tag rest

/-- A text without the spaces and tabs behind every occurrence of a tag.  The next `inTag`
characters belong to the tag found last; `eating` tells whether it ends right here. -/
def slurpFrom (tag : List Char) (eating : Bool) : Nat → List Char → List Char
  | _, [] => []
  | inTag + 1, c :: rest => c :: slurpFrom tag (inTag == 0) inTag rest
  | 0, c :: rest =>
    if eating && Text.isSpaceOrTab c then slurpFrom tag true 0 rest
    else if Text.startsWith tag (c :: rest) then
      c :: slurpFrom tag (tag.length == 1) (tag.length - 1) rest
    else c :: slurpFrom tag false 0 rest

/-- **A text without the spaces and tabs behind every occurrence of a tag.** -/
def slurpAfter (tag : List Char) (s : List Char) : List Char := slurpFrom tag false 0 s

/-- **The normal form of a template text** for a delimiter, with or without trimming. -/
def normalize (d : Char) (trim : Bool) (s : String) : String :=
  let trimmed := if trim then trimEdges (s.toList.filter (· ≠ '\r')) else s.toList
  String.ofList
    (slurpAfter (Tag.closeSlurp.text d) (slurpBefore (Tag.openSlurp.text d) trimmed))

end Stencil.Whitespace
