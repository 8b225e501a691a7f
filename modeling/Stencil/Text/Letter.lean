import Stencil.Text.Letter.Table

/-!
# Letters and word characters

Which characters may start or continue a name.  Two classes are in use: script names are made of
alphabetic and numeric characters, while the words in block headers and markup attributes are made
of word characters, which also take in combining marks and connectors.

## Main definitions

* `Stencil.Text.isAlphabetic`, `Stencil.Text.isNumeric`, `Stencil.Text.isAlphanumeric`
* `Stencil.Text.isWordChar` — alphabetic, mark, decimal digit, connector or joiner.
* `Stencil.Text.atWordEnd` — no word character follows.
-/

set_option relaxedAutoImplicit false
set_option autoImplicit false

namespace Stencil.Text

/-- Membership of a code point in a table of closed intervals in increasing order; the search
stops at the first interval that begins beyond the point. -/
def inRanges (n : Nat) : List (Nat × Nat) → Bool
  | [] => false
  | (lo, hi) :: rest => if n < lo then false else if n ≤ hi then true else inRanges n rest

/-- An ASCII letter. -/
def isAsciiLetter (c : Char) : Bool := ('a' ≤ c && c ≤ 'z') || ('A' ≤ c && c ≤ 'Z')

/-- An ASCII digit. -/
def isDigit (c : Char) : Bool := '0' ≤ c && c ≤ '9'

/-- **An alphabetic character,** by the property `Alphabetic`. -/
def isAlphabetic (c : Char) : Bool :=
  if c.toNat < 0x80 then isAsciiLetter c else inRanges c.toNat alphabeticRanges

/-- **A numeric character:** a decimal digit, a letter number or another number. -/
def isNumeric (c : Char) : Bool :=
  if c.toNat < 0x80 then isDigit c else inRanges c.toNat numberRanges

/-- **An alphabetic or numeric character.** -/
def isAlphanumeric (c : Char) : Bool := isAlphabetic c || isNumeric c

/-- **A word character:** alphabetic, a combining mark, a decimal digit, a connector (the underscore
is the ASCII one) or a join control. -/
def isWordChar (c : Char) : Bool :=
  if c.toNat < 0x80 then isAsciiLetter c || isDigit c || c == '_'
  else inRanges c.toNat wordRanges

/-- **A word ends here:** the text ahead is empty or begins with no word character. -/
def atWordEnd : List Char → Bool
  | [] => true
  | c :: _ => !isWordChar c

end Stencil.Text
