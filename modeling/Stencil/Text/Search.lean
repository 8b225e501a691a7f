import Stencil.Text.Case

/-!
# Searching and replacing

A text is looked for in another from left to right, and two occurrences never overlap: after a hit
the search goes on behind it.

## Main definitions

* `Stencil.Text.dropPrefix?` — what follows a given beginning.
* `Stencil.Text.dropFolded?` — the same without regard to case.
* `Stencil.Text.splitFirst?` — the text before and after the first occurrence.
* `Stencil.Text.splitOn`, `Stencil.Text.replaceAll` — every occurrence at once.
* `Stencil.Text.countNewlines`, `Stencil.Text.lines` — the line structure of a text.

## Main results

* `dropPrefix?_eq_some_iff` — a beginning is dropped exactly when it is there.
* `splitFirst?_append` — the three parts of a hit make up the text.
-/

set_option relaxedAutoImplicit false
set_option autoImplicit false

namespace Stencil.Text

/-! ## Beginnings -/

/-- **What follows a beginning:** `some r` when the text is `p ++ r`. -/
def dropPrefix? : List Char → List Char → Option (List Char)
  | [], s => some s
  | _ :: _, [] => none
  | a :: p, b :: s => if a = b then dropPrefix? p s else none

/-- A beginning is dropped exactly when the text has it. -/
theorem dropPrefix?_eq_some_iff {p s r : List Char} : dropPrefix? p s = some r ↔ s = p ++ r := by
  induction p generalizing s with
  | nil => simp [dropPrefix?]
  | cons a p ih =>
    cases s with
    | nil => simp [dropPrefix?]
    | cons b s =>
      by_cases h : a = b
      · simp [dropPrefix?, h, ih]
      · simp [dropPrefix?, h, Ne.symm h]

/-- Whether a text begins with another. -/
def startsWith (p s : List Char) : Bool := (dropPrefix? p s).isSome

/-- **What follows a word,** written in small letters, when case is disregarded. -/
def dropFolded? : List Char → List Char → Option (List Char)
  | [], s => some s
  | _ :: _, [] => none
  | a :: p, b :: s => if a = fold b then dropFolded? p s else none

/-! ## Occurrences -/

/-- **The text before and after the first occurrence** of `p`. -/
def splitFirst? (p : List Char) : List Char → Option (List Char × List Char)
  | [] => if p.isEmpty then some ([], []) else none
  | c :: s =>
    match dropPrefix? p (c :: s) with
    | some rest => some ([], rest)
    | none => (splitFirst? p s).map fun (before, after) => (c :: before, after)

/-- The parts around an occurrence make up the text. -/
theorem splitFirst?_append {p s before after : List Char}
    (h : splitFirst? p s = some (before, after)) : before ++ p ++ after = s := by
  induction s generalizing before with
  | nil =>
    cases p <;> simp_all [splitFirst?]
  | cons c s ih =>
    simp only [splitFirst?] at h
    split at h
    · rename_i rest hrest
      simp only [Option.some.injEq, Prod.mk.injEq] at h
      obtain ⟨rfl, rfl⟩ := h
      simpa using (dropPrefix?_eq_some_iff.1 hrest).symm
    · simp only [Option.map_eq_some_iff, Prod.mk.injEq, Prod.exists] at h
      obtain ⟨b, a, hs, rfl, rfl⟩ := h
      simpa using ih hs

/-- Whether a text occurs in another. -/
def occursIn (p s : List Char) : Bool := (splitFirst? p s).isSome

/-- Whether a word occurs in a text when case is disregarded. -/
def occursFolded (p : List Char) : List Char → Bool
  | [] => p.isEmpty
  | c :: s => (dropFolded? p (c :: s)).isSome || occursFolded p s

/-- The pieces of a text between the occurrences of `p`, after the next `skip` characters have
been passed over.  The last occurrence found covers the characters still to be skipped. -/
def splitFrom (p : List Char) : Nat → List Char → List (List Char)
  | _, [] => [[]]
  | skip + 1, _ :: s => splitFrom p skip s
  | 0, c :: s =>
    if startsWith p (c :: s) then [] :: splitFrom p (p.length - 1) s
    else
      match splitFrom p 0 s with
      | [] => [[c]]
      | piece :: pieces => (c :: piece) :: pieces

/-- **The pieces of a text between the occurrences of a nonempty text.** -/
def splitOn (p s : List Char) : List (List Char) := splitFrom p 0 s

/-- A text with every occurrence of `p` replaced, after the next `skip` characters have been
passed over. -/
def replaceFrom (p r : List Char) : Nat → List Char → List Char
  | _, [] => []
  | skip + 1, _ :: s => replaceFrom p r skip s
  | 0, c :: s =>
    if startsWith p (c :: s) then r ++ replaceFrom p r (p.length - 1) s
    else c :: replaceFrom p r 0 s

/-- **A text with every occurrence of the nonempty text `p` replaced by `r`.** -/
def replaceAll (p r s : List Char) : List Char := replaceFrom p r 0 s

/-! ## Lines -/

/-- **The number of line breaks.** -/
def countNewlines (s : List Char) : Nat := s.count '\n'

/-- **The lines of a text,** at least one, without their line breaks. -/
def lines (s : List Char) : List (List Char) := splitOn ['\n'] s

/-- A text and what follows it have their line breaks counted apart. -/
theorem countNewlines_append (s t : List Char) :
    countNewlines (s ++ t) = countNewlines s + countNewlines t := by
  simp [countNewlines]

/-- A text has one line more than it has line breaks. -/
theorem length_lines (s : List Char) : (lines s).length = countNewlines s + 1 := by
  unfold lines splitOn
  induction s with
  | nil => rfl
  | cons c s ih =>
    simp only [splitFrom, startsWith, dropPrefix?]
    by_cases h : '\n' = c
    · subst h
      simp [ih, countNewlines]
    · have h' : ¬ c = '\n' := fun e => h e.symm
      have hc : countNewlines (c :: s) = countNewlines s := by
        simp [countNewlines, h']
      rw [hc]
      simp only [h, if_false, Option.isSome_none, Bool.false_eq_true]
      cases hs : splitFrom ['\n'] 0 s with
      | nil => simp [hs] at ih
      | cons piece pieces => simpa [hs] using ih

end Stencil.Text
