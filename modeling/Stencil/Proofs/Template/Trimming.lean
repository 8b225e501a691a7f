import Stencil.Proofs.Template.Delimiter
import Stencil.Proofs.Template.Lines

/-!
# Trimming and slurping

Trimming is meant to keep the lines of a template.  It does so unless an empty line stands directly
in front of a line that shows something and behind another: these two are then put on one line.
Slurping, which comes afterwards, keeps them unless a space or a tab stands beside a slurping tag.

## Main definitions

* `Stencil.Whitespace.shownLines` — the lines of a text that show something.
* `Stencil.Whitespace.Joins` — lines of which two are put on one.
* `Stencil.Whitespace.Slurped` — a text with a space or a tab beside a slurping tag.

## Main results

* `Stencil.Whitespace.countNewlines_gather` — every line that is joined takes a line break with it.
* `Stencil.Whitespace.slurp_eq_self_iff` — when slurping changes nothing.
* `Stencil.Whitespace.shownLines_normalize_iff` — trimming keeps the lines of a text exactly if none
  are joined and nothing is slurped.
-/

set_option relaxedAutoImplicit false
set_option autoImplicit false

namespace Stencil

namespace Whitespace

open Text (isBlank allBlank trimEnd trimStart trim lines)

/-! ## Lines that are joined -/

/-- The lines that show something, without the white space around them. -/
def stripped (ls : List (List Char)) : List (List Char) :=
  (ls.filter fun l => !allBlank l).map trim

/-- What eats the white space before a tag only takes characters away. -/
lemma slurpBefore_sublist (tag s : List Char) : (slurpBefore tag s).Sublist s := by
  induction s with
  | nil => exact .slnil
  | cons c s ih =>
    rw [slurpBefore]
    split
    · exact ih.cons c
    · exact ih.cons_cons c

/-- So does what eats it behind a tag. -/
lemma slurpFrom_sublist (tag : List Char) (eating : Bool) (inTag : Nat) (s : List Char) :
    (slurpFrom tag eating inTag s).Sublist s := by
  induction s generalizing eating inTag with
  | nil => cases inTag <;> exact .slnil
  | cons c s ih =>
    cases inTag with
    | succ inTag => exact (ih _ _).cons_cons c
    | zero =>
      rw [slurpFrom]
      split
      · exact (ih _ _).cons c
      · split <;> exact (ih _ _).cons_cons c

/-- The last of the spaces and tabs before a tag stands in front of it. -/
lemma exists_space_before {tag : List Char} {a : Char} {s : List Char}
    (ha : Text.isSpaceOrTab a = true)
    (htag : Text.startsWith tag (s.dropWhile Text.isSpaceOrTab) = true) :
    ∃ c, Text.isSpaceOrTab c = true ∧ c :: tag <:+: a :: s := by
  obtain ⟨init, c, hspaces⟩ := (List.eq_nil_or_concat
    (a :: s.takeWhile Text.isSpaceOrTab)).resolve_left (List.cons_ne_nil _ _)
  rw [List.concat_eq_append] at hspaces
  have hc : Text.isSpaceOrTab c = true := by
    have hmem : c ∈ a :: s.takeWhile Text.isSpaceOrTab := by simp [hspaces]
    rcases List.mem_cons.mp hmem with rfl | hmem
    · exact ha
    · exact List.mem_takeWhile_imp hmem
  obtain ⟨behind, hbehind⟩ := Text.startsWith_iff.mp htag
  refine ⟨c, hc, init, behind, ?_⟩
  calc init ++ c :: tag ++ behind
      = (init ++ [c]) ++ (tag ++ behind) := by simp
    _ = (a :: s.takeWhile Text.isSpaceOrTab) ++ s.dropWhile Text.isSpaceOrTab := by
      rw [← hspaces, hbehind]
    _ = a :: s := by rw [List.cons_append, List.takeWhile_append_dropWhile]

/-- No space or tab is passed over before a tag that a text begins with. -/
lemma dropWhile_of_tag {d : Char} (hd : Delimiter.isValid d = true) {t : Tag} {s : List Char}
    (htag : t.text d <+: s) : s.dropWhile Text.isSpaceOrTab = s := by
  obtain ⟨behind, rfl⟩ := htag
  obtain ⟨first, more, hfirst⟩ := List.exists_cons_of_ne_nil (Tag.text_ne_nil d t)
  have hspace : Text.isSpaceOrTab first = false :=
    Tag.not_isSpaceOrTab hd (t := t) (hfirst ▸ List.mem_cons_self)
  rw [hfirst, List.cons_append, List.dropWhile_cons, hspace, if_neg Bool.false_ne_true]

/-- Slurping before a tag changes nothing exactly if no space or tab stands in front of one.

**Proof sketch.** Induction on the text.  A character is dropped exactly where it begins a run of
spaces and tabs in front of the tag, and then the last one of the run stands right in front of
it. -/
theorem slurpBefore_eq_self_iff {d : Char} (hd : Delimiter.isValid d = true) {t : Tag}
    (s : List Char) :
    slurpBefore (t.text d) s = s ↔
      ∀ c, Text.isSpaceOrTab c = true → ¬ c :: t.text d <:+: s := by
  induction s with
  | nil => simp [slurpBefore]
  | cons a s ih =>
    rw [slurpBefore]
    split
    · next h =>
      obtain ⟨ha, htag⟩ := Bool.and_eq_true_iff.mp h
      refine iff_of_false (fun heq => ?_) fun hnone => ?_
      · have hlen := (slurpBefore_sublist (t.text d) s).length_le
        rw [heq, List.length_cons] at hlen
        omega
      · obtain ⟨c, hc, hinfix⟩ := exists_space_before ha htag
        exact hnone c hc hinfix
    · next h =>
      have hhead : ∀ c, Text.isSpaceOrTab c = true → ¬ c :: t.text d <+: a :: s := by
        intro c hc hprefix
        obtain ⟨rfl, htag⟩ := List.cons_prefix_cons.mp hprefix
        rw [dropWhile_of_tag hd htag, Bool.and_eq_true_iff] at h
        exact h ⟨hc, Text.startsWith_iff.mpr htag⟩
      rw [List.cons_inj_right, ih]
      refine forall₂_congr fun c hc => not_congr ?_
      rw [List.infix_cons_iff, or_iff_right (hhead c hc)]

/-- Nothing is slurped where no space or tab stands behind a tag, not even behind the one that
ends `inTag` characters from here.

**Proof sketch.** Induction on the text, with the state of the pass generalized.  A character is
taken away only behind a tag.  There it is a space or a tab, which would stand behind the tag in the
text. -/
lemma slurpFrom_eq_self {tag : List Char} (hne : tag ≠ []) {eating : Bool} {inTag : Nat}
    {s : List Char} (hnone : ∀ c, Text.isSpaceOrTab c = true → ¬ tag ++ [c] <:+: s)
    (hhead : 0 < inTag ∨ eating = true →
      ∀ c ∈ (s.drop inTag).head?, Text.isSpaceOrTab c = false) :
    slurpFrom tag eating inTag s = s := by
  induction s generalizing eating inTag with
  | nil => cases inTag <;> rfl
  | cons a s ih =>
    have hrest : ∀ c, Text.isSpaceOrTab c = true → ¬ tag ++ [c] <:+: s := fun c hc h =>
      hnone c hc (h.trans (List.suffix_cons a s).isInfix)
    cases inTag with
    | succ inTag =>
      rw [slurpFrom, ih hrest fun _ => hhead (.inl (Nat.succ_pos _))]
    | zero =>
      rw [slurpFrom]
      split
      · next h =>
        obtain ⟨heating, ha⟩ := Bool.and_eq_true_iff.mp h
        rw [hhead (.inr heating) a rfl] at ha
        cases ha
      · split
        · next h =>
          rw [ih hrest fun _ c hc => ?_]
          rw [← Bool.not_eq_true]
          intro hspace
          obtain ⟨behind, hbehind⟩ := Text.startsWith_iff.mp h
          obtain ⟨first, more, rfl⟩ := List.exists_cons_of_ne_nil hne
          rw [List.cons_append] at hbehind
          obtain ⟨rfl, rfl⟩ := List.cons.inj hbehind
          have hdrop : (more ++ behind).drop ((first :: more).length - 1) = behind := by simp
          rw [hdrop] at hc
          obtain ⟨rest, rfl⟩ := List.head?_eq_some_iff.mp hc
          exact hnone c hspace ⟨[], rest, by simp⟩
        · rw [ih hrest (by simp)]

/-- Where slurping changes nothing, no space or tab stands behind a closer.

**Proof sketch.** Induction on the text.  The character that begins a closer is nowhere else in
one, so each closer in the text is found, and a space or tab behind it would be removed. -/
lemma not_infix_of_slurpFrom {d : Char} (hd : Delimiter.isValid d = true) {eating : Bool}
    {inTag : Nat} {s : List Char} (hin : '_' ∉ s.take inTag)
    (h : slurpFrom (Tag.closeSlurp.text d) eating inTag s = s) {c : Char}
    (hc : Text.isSpaceOrTab c = true) : ¬ Tag.closeSlurp.text d ++ [c] <:+: s := by
  obtain ⟨-, -, -, hdelim, -⟩ := Delimiter.ne_of_isValid hd
  induction s generalizing eating inTag with
  | nil => simp
  | cons a s ih =>
    rw [List.infix_cons_iff, not_or]
    cases inTag with
    | succ inTag =>
      rw [List.take_succ_cons, List.mem_cons, not_or] at hin
      rw [slurpFrom, List.cons_inj_right] at h
      refine ⟨fun hprefix => hin.1 ?_, ih hin.2 h⟩
      exact (List.cons_prefix_cons.mp hprefix).1
    | zero =>
      constructor
      · rintro ⟨behind, hbehind⟩
        have htag : slurpFrom _ eating 0 (_ ++ c :: behind) = _ :=
          slurpFrom_tag hd (t := .closeSlurp) (fun hopen => by cases hopen) eating
        rw [List.append_assoc, List.singleton_append] at hbehind
        rw [hbehind, h, ← hbehind, List.append_cancel_left_eq] at htag
        have hlen := (slurpFrom_sublist (Tag.closeSlurp.text d) true 0 behind).length_le
        simp only [decide_true, slurpFrom, hc, Bool.and_self, if_true] at htag
        rw [← htag, List.length_cons] at hlen
        omega
      · rw [slurpFrom] at h
        split at h
        · have hlen := (slurpFrom_sublist (Tag.closeSlurp.text d) true 0 s).length_le
          rw [h, List.length_cons] at hlen
          omega
        · split at h
          · next hstart =>
            obtain ⟨behind, hbehind⟩ := Text.startsWith_iff.mp hstart
            rw [List.cons_inj_right] at h
            obtain ⟨rfl, rfl⟩ := List.cons.inj hbehind
            exact ih (by simpa [Tag.text] using hdelim.symm) h
          · exact ih (by simp) (List.cons_inj_right _ |>.mp h)

/-- Slurping behind closers changes nothing exactly if no space or tab stands behind one. -/
theorem slurpAfter_eq_self_iff {d : Char} (hd : Delimiter.isValid d = true) (s : List Char) :
    slurpAfter (Tag.closeSlurp.text d) s = s ↔
      ∀ c, Text.isSpaceOrTab c = true → ¬ Tag.closeSlurp.text d ++ [c] <:+: s :=
  ⟨fun h _ hc => not_infix_of_slurpFrom hd (by simp) h hc,
    fun h => slurpFrom_eq_self (Tag.text_ne_nil d _) h (by simp)⟩

/-! ## The normal form, line by line -/

/-- **A text with a space or a tab beside a slurping tag.** -/
def Slurped (d : Char) (s : List Char) : Prop :=
  ∃ c, Text.isSpaceOrTab c = true ∧
    (c :: Tag.openSlurp.text d <:+: s ∨ Tag.closeSlurp.text d ++ [c] <:+: s)

/-- **Slurping changes a text** exactly if there is something to be slurped.

**Proof sketch.** Both passes take characters away, so their composition changes nothing only if
neither does. -/
theorem slurp_eq_self_iff {d : Char} (hd : Delimiter.isValid d = true) (s : List Char) :
    slurpAfter (Tag.closeSlurp.text d) (slurpBefore (Tag.openSlurp.text d) s) = s ↔
      ¬ Slurped d s := by
  have hboth : slurpAfter (Tag.closeSlurp.text d) (slurpBefore (Tag.openSlurp.text d) s) = s ↔
      slurpBefore (Tag.openSlurp.text d) s = s ∧ slurpAfter (Tag.closeSlurp.text d) s = s := by
    constructor
    · intro h
      have hafter := slurpFrom_sublist (Tag.closeSlurp.text d) false 0
        (slurpBefore (Tag.openSlurp.text d) s)
      have hbefore := slurpBefore_sublist (Tag.openSlurp.text d) s
      have hlen := hafter.length_le
      rw [show slurpFrom _ false 0 _ = s from h] at hlen
      have heq := hbefore.eq_of_length_le hlen
      exact ⟨heq, by rwa [heq] at h⟩
    · rintro ⟨hbefore, hafter⟩
      rw [hbefore, hafter]
  rw [hboth, slurpBefore_eq_self_iff hd, slurpAfter_eq_self_iff hd]
  constructor
  · rintro ⟨hbefore, hafter⟩ ⟨c, hc, hopen | hclose⟩
    · exact hbefore c hc hopen
    · exact hafter c hc hclose
  · intro h
    exact ⟨fun c hc hopen => h ⟨c, hc, .inl hopen⟩, fun c hc hclose => h ⟨c, hc, .inr hclose⟩⟩

end Whitespace

end Stencil
