import Mathlib.Tactic.Lemma
import Stencil.Template.Segment

/-!
# The pieces of a text

Which pieces a text is cut into is settled by what they are, not by the way in which the cut finds
them: they make up the text, every tag is the first that its place allows, and no tag begins inside
a literal.

## Main definitions

* `Stencil.Piece.written` — the text that pieces make up.
* `Stencil.Piece.TagFree` — no tag begins inside a text that something follows.
* `Stencil.Piece.Tiled` — pieces that stand in the text that they make up as the cut would have
  them.

## Main results

* `Stencil.Tag.match?_eq_some_iff` — only `<%` depends on the character behind it.
* `Stencil.Piece.split_eq_iff` — the cut of a text is the one tiling of it.

## Design

`Tiled` is stated from the left, each piece with the text of the pieces behind it.  So it says what
may stand next to what without any place in the text, and a change to the pieces, such as dropping
white space at the end of a literal, has to be justified only against what follows them.
-/

set_option relaxedAutoImplicit false
set_option autoImplicit false

namespace Stencil

variable {d : Char}

/-- A delimiter is none of the characters that tags are made of. -/
lemma Delimiter.ne_of_isValid (h : Delimiter.isValid d = true) :
    d ≠ '<' ∧ d ≠ '>' ∧ d ≠ '-' ∧ d ≠ '_' ∧ d ≠ '=' ∧ d ≠ '#' := by
  rw [isValid, Bool.not_or, Bool.and_eq_true] at h
  simpa using h.2

/-- A delimiter is no white space. -/
lemma Delimiter.not_isBlank (h : Delimiter.isValid d = true) : Text.isBlank d = false := by
  rw [isValid, Bool.not_or, Bool.and_eq_true] at h
  simpa using h.1

/-! ## Tags -/

namespace Tag

/-- The characters that make `<%` a longer tag. -/
def modifiers (d : Char) : List Char := [d, '=', '-', '_', '#']

/-- **Which tag a text begins with.**  Only `<%` begins other tags, so it is the only one that
depends on what follows it.

**Proof sketch.** The tags are tried one after the other.  Those before `<%` are the same with a
modifier behind it, so it is found only if the next character is none.  No other tag begins one that
is tried before it. -/
theorem match?_eq_some_iff (hd : Delimiter.isValid d = true) {s rest : List Char} {tag : Tag} :
    match? d s = some (tag, rest) ↔
      s = tag.text d ++ rest ∧ (tag = openCode → ∀ c ∈ rest.head?, c ∉ modifiers d) := by
  obtain ⟨h1, h2, h3, h4, h5, h6⟩ := Delimiter.ne_of_isValid hd
  constructor
  · intro h
    refine ⟨match?_eq_append h, ?_⟩
    rintro rfl c hc hmod
    obtain ⟨behind, rfl⟩ : ∃ behind, rest = c :: behind := by
      cases rest <;> simp_all
    rw [match?_eq_append h] at h
    simp only [modifiers, List.mem_cons, List.not_mem_nil, or_false] at hmod
    rcases hmod with rfl | rfl | rfl | rfl | rfl <;>
      simp_all [match?, all, text, Text.dropPrefix?]
  · rintro ⟨rfl, h⟩
    cases tag with
    | openCode =>
      cases rest with
      | nil => simp [match?, all, text, Text.dropPrefix?]
      | cons c behind =>
        obtain ⟨g1, g2, g3, g4, g5⟩ : c ≠ d ∧ c ≠ '=' ∧ c ≠ '-' ∧ c ≠ '_' ∧ c ≠ '#' := by
          simpa [modifiers] using h rfl c rfl
        simp [match?, all, text, Text.dropPrefix?, g1.symm, g2.symm, g3.symm, g4.symm, g5.symm]
    | _ =>
      simp [match?, all, text, Text.dropPrefix?, h1.symm, h3, h4, h5, h6]

/-- A text begins with no tag exactly when it has none of their texts at its beginning. -/
theorem match?_eq_none_iff {s : List Char} : match? d s = none ↔ ∀ tag, ¬ text d tag <+: s := by
  have hall (tag : Tag) : tag ∈ all := by cases tag <;> decide
  simp only [match?, List.findSome?_eq_none_iff, Option.map_eq_none_iff, hall, forall_const]
  refine forall_congr' fun tag => ?_
  rw [Option.eq_none_iff_forall_ne_some]
  simp only [ne_eq, Text.dropPrefix?_eq_some_iff, List.IsPrefix, not_exists, @eq_comm _ s]

/-- The delimiter is the second character of a tag, except for `%>`. -/
lemma text_eq_cons (d : Char) {tag : Tag} (h : tag ≠ .close) :
    ∃ c more, tag.text d = c :: d :: more ∧ c ∈ ['<', '-', '_'] := by
  cases tag <;> simp_all [text]

end Tag

/-! ## Tilings -/

namespace Piece

/-- **The text that pieces make up.** -/
def written (d : Char) (pieces : List Piece) : List Char := pieces.flatMap (text d)

/-- No pieces are written as nothing. -/
@[simp] lemma written_nil : written d [] = [] := rfl

/-- The first piece is written first. -/
@[simp] lemma written_cons (piece : Piece) (rest : List Piece) :
    written d (piece :: rest) = piece.text d ++ written d rest := rfl

/-- **No tag begins inside a text** that something follows. -/
def TagFree (d : Char) (s behind : List Char) : Prop :=
  ∀ inner, inner <:+ s → inner ≠ [] → Tag.match? d (inner ++ behind) = none

/-- A text without the delimiter holds no tag, unless it ends in a character that a tag has before
its delimiter and a delimiter follows.

**Proof sketch.** Every tag has the delimiter in it, as its first or second character.  So a tag
inside the text would begin with its last character. -/
lemma TagFree.of_notMem {s behind : List Char} (hd : d ∉ s)
    (hlast : behind.head? = some d → ∀ c ∈ s.getLast?, c ∉ ['<', '-', '_']) :
    TagFree d s behind := by
  intro inner hinner hne
  rw [Tag.match?_eq_none_iff]
  intro tag hprefix
  have hfresh : d ∉ inner := fun hmem => hd (hinner.subset hmem)
  obtain ⟨c, inner, rfl⟩ := List.exists_cons_of_ne_nil hne
  rw [List.mem_cons, not_or] at hfresh
  have htag : tag ≠ .close := by
    rintro rfl
    exact hfresh.1 (List.cons_prefix_cons.1 hprefix).1
  obtain ⟨c', more, htext, hc'⟩ := Tag.text_eq_cons d htag
  rw [htext, List.cons_append, List.cons_prefix_cons] at hprefix
  obtain ⟨rfl, hprefix⟩ := hprefix
  cases inner with
  | cons a inner => exact hfresh.2 ((List.cons_prefix_cons.1 hprefix).1 ▸ List.mem_cons_self)
  | nil =>
    -- the tag begins with the last character and goes on behind the text
    obtain ⟨rest, hrest⟩ := hprefix
    obtain ⟨front, rfl⟩ := hinner
    exact hlast (by rw [← List.nil_append behind, ← hrest]; rfl) c' (by simp) hc'

/-- No literal stands first. -/
def NoLiteral (pieces : List Piece) : Prop := ∀ s, pieces.head? ≠ some (.literal s)

/-- **Pieces that stand in the text that they make up as the cut would have them.** -/
inductive Tiled (d : Char) : List Piece → Prop
  /-- No piece at all. -/
  | nil : Tiled d []
  /-- A tag is the one that the text begins with. -/
  | tag {t : Tag} {rest : List Piece} :
    Tag.match? d (t.text d ++ written d rest) = some (t, written d rest) → Tiled d rest →
    Tiled d (.tag t :: rest)
  /-- A literal is not empty, no other follows it, and no tag begins inside it. -/
  | literal {s : List Char} {rest : List Piece} :
    s ≠ [] → NoLiteral rest → TagFree d s (written d rest) → Tiled d rest →
    Tiled d (.literal s :: rest)

/-! ## The cut, step by step -/

/-- Skipped characters play no part. -/
lemma splitAfter_eq_drop (pending : List Char) (skip : Nat) (s : List Char) :
    splitAfter d pending skip s = splitAfter d pending 0 (s.drop skip) := by
  induction s generalizing skip with
  | nil => simp [splitAfter]
  | cons c s ih =>
    cases skip with
    | zero => rfl
    | succ skip => exact ih skip

/-- The literal before a tag is given out, and the cut goes on behind the tag. -/
lemma splitAfter_of_match? {s rest pending : List Char} {t : Tag}
    (h : Tag.match? d s = some (t, rest)) :
    splitAfter d pending 0 s = flush pending ++ .tag t :: split d rest := by
  have hs := Tag.match?_eq_append h
  cases s with
  | nil => simp [Tag.text_ne_nil] at hs
  | cons c tail =>
    have hdrop : tail.drop ((t.text d).length - 1) = rest := by
      have hpos := List.length_pos_iff.2 (Tag.text_ne_nil d t)
      calc tail.drop ((t.text d).length - 1)
          = (c :: tail).drop (((t.text d).length - 1) + 1) := rfl
        _ = (t.text d ++ rest).drop (t.text d).length := by rw [hs, Nat.sub_add_cancel hpos]
        _ = rest := List.drop_left
    rw [splitAfter, h]
    simp only
    rw [splitAfter_eq_drop, hdrop, split]

/-- A text in which no tag begins becomes part of the literal. -/
lemma splitAfter_of_tagFree {s behind pending : List Char} (h : TagFree d s behind) :
    splitAfter d pending 0 (s ++ behind) = splitAfter d (s.reverse ++ pending) 0 behind := by
  induction s generalizing pending with
  | nil => rfl
  | cons c s ih =>
    have hnone : Tag.match? d (c :: (s ++ behind)) = none :=
      h (c :: s) (List.suffix_refl _) (List.cons_ne_nil _ _)
    rw [List.cons_append, splitAfter, hnone]
    simp only
    rw [ih fun inner hinner => h inner (hinner.trans (List.suffix_cons c s))]
    simp

/-- Characters that are pending are a literal. -/
lemma flush_of_ne_nil {pending : List Char} (h : pending ≠ []) :
    flush pending = [.literal pending.reverse] := by
  simp [flush, h]

/-! ## The cut is the tiling -/

/-- The cut of a text tiles it, when no tag begins inside the literal read before.

**Proof sketch.** Strong induction on the length of what is left, as a tag takes several characters
off.  The literal read so far is put out in front of a tag, and no tag begins inside it by
assumption; a character that begins no tag is added to it. -/
lemma tiled_splitAfter (pending s : List Char) (h : TagFree d pending.reverse s) :
    Tiled d (splitAfter d pending 0 s) := by
  induction hn : s.length using Nat.strongRecOn generalizing pending s with
  | ind n ih =>
  subst hn
  have hflush {rest : List Piece} (hrest : Tiled d rest) (hfirst : NoLiteral rest)
      (hw : written d rest = s) : Tiled d (flush pending ++ rest) := by
    by_cases hp : pending = []
    · simpa [hp, flush] using hrest
    · rw [flush_of_ne_nil hp]
      exact .literal (by simpa using hp) hfirst (hw ▸ h) hrest
  cases s with
  | nil => simpa [splitAfter] using hflush .nil (by simp [NoLiteral]) rfl
  | cons c tail =>
    cases hmatch : Tag.match? d (c :: tail) with
    | none =>
      rw [splitAfter, hmatch]
      refine ih tail.length (by simp) (c :: pending) tail ?_ rfl
      intro inner hinner hne
      rw [List.reverse_cons, List.suffix_concat_iff] at hinner
      obtain rfl | ⟨front, rfl, hfront⟩ := hinner
      · contradiction
      · rw [List.append_assoc]
        by_cases hempty : front = []
        · rwa [hempty]
        · exact h front hfront hempty
    | some found =>
      obtain ⟨t, rest⟩ := found
      have hs := Tag.match?_eq_append hmatch
      have hw : written d (split d rest) = rest := flatMap_text_split d rest
      rw [splitAfter_of_match? hmatch]
      refine hflush (.tag ?_ ?_) (by simp [NoLiteral]) ?_
      · rw [hw, ← hs, hmatch]
      · exact ih rest.length (Tag.length_lt_of_match? hmatch) [] rest (by simp [TagFree]) rfl
      · simp [hw, text, hs]

/-- A tiling is given out behind the literal read before. -/
lemma splitAfter_written {pieces : List Piece} (h : Tiled d pieces) (pending : List Char)
    (hfirst : pending = [] ∨ NoLiteral pieces) :
    splitAfter d pending 0 (written d pieces) = flush pending ++ pieces := by
  induction h generalizing pending with
  | nil => simp [splitAfter]
  | tag hmatch _ ih =>
    rw [written_cons, text, splitAfter_of_match? hmatch, split, ih [] (.inl rfl)]
    simp [flush]
  | @literal s rest hne hrest hfree _ ih =>
    obtain rfl : pending = [] := hfirst.resolve_right fun hno => hno s rfl
    rw [written_cons, text, splitAfter_of_tagFree hfree, List.append_nil, ih _ (.inr hrest),
      flush_of_ne_nil (by simpa using hne)]
    simp [flush]

/-- The cut of a text tiles it. -/
theorem tiled_split (d : Char) (s : List Char) : Tiled d (split d s) :=
  tiled_splitAfter [] s (by simp [TagFree])

/-- **The cut of a text is the one tiling of it.**

**Proof sketch.** The cut tiles the text: what it gives out as a tag is what matched there, and
every place inside a literal was tried and nothing matched.  Conversely the cut follows a tiling
piece by piece: through a literal nothing matches, and at a tag the tag itself does. -/
theorem split_eq_iff {s : List Char} {pieces : List Piece} :
    split d s = pieces ↔ written d pieces = s ∧ Tiled d pieces := by
  constructor
  · rintro rfl
    exact ⟨flatMap_text_split d s, tiled_split d s⟩
  · rintro ⟨rfl, htiled⟩
    rw [split, splitAfter_written htiled [] (.inl rfl)]
    rfl

end Piece

end Stencil
