import Stencil.Text.Case.Table
import Stencil.Text.Letter

/-!
# Letter case

Full case conversion, and comparison without regard to case for the ASCII words of markup.

A character may become several (the sharp s becomes `SS`), and the capital sigma has two small
forms: the final one stands where a cased letter comes before it and none comes after it, with
case-ignorable characters passed over on both sides.

## Main definitions

* `Stencil.Text.toUpper`, `Stencil.Text.toLower` — conversion of a text.
* `Stencil.Text.fold` — the ASCII letter that a character is equal to without regard to case.
-/

set_option relaxedAutoImplicit false
set_option autoImplicit false

namespace Stencil.Text

/-- The image of a code point under a table of runs, if a run holds it. -/
def CaseRun.image? (n : Nat) : List CaseRun → Option Nat
  | [] => none
  | run :: rest =>
    if n < run.first then none
    else if n ≤ run.last then
      if (n - run.first) % run.step = 0 then some (run.target + (n - run.first)) else none
    else image? n rest

/-- The capital form of one character. -/
def upperChar (c : Char) : List Char :=
  if c.toNat < 0x80 then
    [if 'a' ≤ c && c ≤ 'z' then Char.ofNat (c.toNat - 32) else c]
  else
    match upperExpansions.lookup c.toNat with
    | some points => points.map Char.ofNat
    | none => [((CaseRun.image? c.toNat upperRuns).map Char.ofNat).getD c]

/-- The small form of one character, apart from the final sigma. -/
def lowerChar (c : Char) : List Char :=
  if c.toNat < 0x80 then
    [if 'A' ≤ c && c ≤ 'Z' then Char.ofNat (c.toNat + 32) else c]
  else
    match lowerExpansions.lookup c.toNat with
    | some points => points.map Char.ofNat
    | none => [((CaseRun.image? c.toNat lowerRuns).map Char.ofNat).getD c]

/-- A cased character: a letter with a case, by the property `Cased`. -/
def isCased (c : Char) : Bool :=
  if c.toNat < 0x80 then isAsciiLetter c else inRanges c.toNat casedRanges

/-- A character that case conversion passes over, by the property `Case_Ignorable`. -/
def isCaseIgnorable (c : Char) : Bool :=
  if c.toNat < 0x80 then c == '\'' || c == '.' || c == ':' || c == '^' || c.toNat == 0x60
  else inRanges c.toNat caseIgnorableRanges

/-- Whether the first character that is not passed over is cased. -/
def meetsCased (s : List Char) : Bool :=
  match s.dropWhile isCaseIgnorable with
  | [] => false
  | c :: _ => isCased c

/-- The small form of a text that follows `before`, which is held in reverse. -/
def lowerAfter (before : List Char) : List Char → List Char
  | [] => []
  | c :: rest =>
    let small :=
      if c.toNat = 0x3A3 then
        [Char.ofNat (if meetsCased before && !meetsCased rest then 0x3C2 else 0x3C3)]
      else lowerChar c
    small ++ lowerAfter (c :: before) rest

/-- **A text in capital letters.** -/
def toUpper (s : String) : String := String.ofList (s.toList.flatMap upperChar)

/-- **A text in small letters.** -/
def toLower (s : String) : String := String.ofList (lowerAfter [] s.toList)

/-- **The small ASCII letter equal to a character without regard to case.**  Besides the capitals,
the long s is equal to `s` and the Kelvin sign to `k`; every other character is itself. -/
def fold (c : Char) : Char :=
  if 'A' ≤ c && c ≤ 'Z' then Char.ofNat (c.toNat + 32)
  else if c.toNat = 0x17F then 's'
  else if c.toNat = 0x212A then 'k'
  else c

end Stencil.Text
