/-!
# Escaped text

Two ways to write a text so that nothing in it is taken for the surrounding notation: for markup,
and for a string literal between double quotes.

## Main definitions

* `Stencil.Text.escapeMarkup` — for markup.
* `Stencil.Text.escapeLiteral` — for a string literal.

## Main results

* `escapeMarkup_append` — a text may be escaped piece by piece.
-/

set_option relaxedAutoImplicit false
set_option autoImplicit false

namespace Stencil.Text

/-- A character in markup.  The five characters with a meaning become references. -/
def markupChar (c : Char) : List Char :=
  if c = '&' then "&amp;".toList
  else if c = '<' then "&lt;".toList
  else if c = '>' then "&gt;".toList
  else if c = '"' then "&#34;".toList
  else if c = '\'' then "&#39;".toList
  else [c]

/-- **A text in markup.** -/
def escapeMarkup (s : String) : String := String.ofList (s.toList.flatMap markupChar)

/-- A character in a string literal. -/
def literalChar (c : Char) : List Char :=
  if c = '\\' then ['\\', '\\']
  else if c = '\n' then ['\\', 'n']
  else if c = '\r' then ['\\', 'r']
  else if c = '"' then ['\\', '"']
  else [c]

/-- **A text in a string literal,** without the quotes. -/
def escapeLiteral (s : String) : String := String.ofList (s.toList.flatMap literalChar)

/-- A text may be escaped piece by piece. -/
theorem escapeMarkup_append (s t : String) :
    escapeMarkup (s ++ t) = escapeMarkup s ++ escapeMarkup t := by
  simp [escapeMarkup, String.ofList_append]

end Stencil.Text
