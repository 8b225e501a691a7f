/-!
# White space

The one class of white space that the whole library uses: the property `White_Space` of the Unicode
standard.  It decides what a blank line is, where a tag's content is cut, and what separates the
words of a directive.

## Main definitions

* `Stencil.Text.isBlank` — the class itself.
* `Stencil.Text.trimStart`, `trimEnd`, `trim` — a text without the white space at its ends.
* `Stencil.Text.allBlank` — whether a text shows nothing.

## Main results

* `isBlank_of_isWhitespace` — the ASCII white space of the core library is white space here.
* `trim_of_allBlank` — trimming a text that shows nothing leaves nothing.
-/

set_option relaxedAutoImplicit false
set_option autoImplicit false

namespace Stencil.Text

/-- **White space:** the 25 code points of the property `White_Space`. -/
def isBlank (c : Char) : Bool :=
  let n := c.toNat
  (9 ≤ n && n ≤ 13) || n == 0x20 || n == 0x85 || n == 0xA0 || n == 0x1680 ||
    (0x2000 ≤ n && n ≤ 0x200A) || n == 0x2028 || n == 0x2029 || n == 0x202F || n == 0x205F ||
    n == 0x3000

/-- A space or a tab, the white space that a slurping tag eats. -/
def isSpaceOrTab (c : Char) : Bool := c == ' ' || c == '\t'

/-- **Whether a text shows nothing:** it is empty or white space throughout. -/
def allBlank (s : List Char) : Bool := s.all isBlank

/-- **The text without its leading white space.** -/
def trimStart (s : List Char) : List Char := s.dropWhile isBlank

/-- **The text without its trailing white space.** -/
def trimEnd (s : List Char) : List Char := (s.reverse.dropWhile isBlank).reverse

/-- **The text without the white space at both ends.** -/
def trim (s : List Char) : List Char := trimEnd (trimStart s)

/-- Every character that the core library calls white space is white space here. -/
theorem isBlank_of_isWhitespace {c : Char} (h : c.isWhitespace = true) : isBlank c = true := by
  simp only [Char.isWhitespace, Bool.or_eq_true, decide_eq_true_eq] at h
  rcases h with ((h | h) | h) | h <;> subst h <;> decide

/-- Nothing is left of a text that shows nothing once its leading white space is gone. -/
theorem trimStart_of_allBlank {s : List Char} (h : allBlank s = true) : trimStart s = [] := by
  induction s with
  | nil => rfl
  | cons c rest ih =>
    simp only [allBlank, List.all_cons, Bool.and_eq_true] at h
    simpa [trimStart, List.dropWhile_cons, h.1] using ih h.2

/-- Trimming a text that shows nothing leaves nothing. -/
theorem trim_of_allBlank {s : List Char} (h : allBlank s = true) : trim s = [] := by
  simp [trim, trimEnd, trimStart_of_allBlank h]

end Stencil.Text
