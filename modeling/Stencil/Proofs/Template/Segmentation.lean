import Stencil.Proofs.Template.Delimiter

/-!
# The segments of a text

What the segments of a text are, said without the way in which they are found: they make up the
text, each with its place, every tag is the first that its place allows, and no tag begins inside a
literal.  There is one such list of segments for every text.

## Main definitions

* `Stencil.Tag.IsFirst` — the tag that a text begins with, in the order in which tags are tried.
* `Stencil.Segmentation` — segments that are the leftmost cut of a text.

## Main results

* `Stencil.Segmentation.tiled`, `Stencil.segmentation_split` — such segments are a tiling, with the
  places of its pieces.
* `Stencil.Segment.segmentation_iff_split` — the segments of a text are the one cut of this kind.

## Design

`Segmentation` speaks of a segment by the segments before and behind it, so nothing in it depends on
how far the cut has come.  The tilings of `Stencil.Piece.Tiled` carry the proof.
-/

set_option relaxedAutoImplicit false
set_option autoImplicit false

namespace Stencil

variable {d : Char} {text : String} {segments before behind : List Segment} {s : Segment}

/-- **The tag that a text begins with:** the first of all tags, in the order in which they are
tried, whose text stands at the beginning. -/
def Tag.IsFirst (d : Char) (t : Tag) (s : List Char) : Prop :=
  ∃ earlier later, Tag.all = earlier ++ t :: later ∧ t.text d <+: s ∧
    ∀ t' ∈ earlier, ¬ t'.text d <+: s

/-- The tags are tried in this order, shown for the delimiter `%`. -/
example : Tag.all.map (fun t => String.ofList (t.text '%')) =
    ["<%%", "<%=", "<%-", "<%_", "<%#", "<%", "%>", "-%>", "_%>"] := by decide

/-- The tag that is found is the first whose text stands at the beginning. -/
lemma Tag.isFirst_iff {t : Tag} {s : List Char} :
    t.IsFirst d s ↔ ∃ rest, Tag.match? d s = some (t, rest) := by
  have hstarts (t' : Tag) : (Text.dropPrefix? (t'.text d) s).map (fun rest => (t', rest)) = none ↔
      ¬ t'.text d <+: s := by
    rw [Option.map_eq_none_iff, Option.eq_none_iff_forall_ne_some]
    simp only [ne_eq, Text.dropPrefix?_eq_some_iff, List.IsPrefix, not_exists, @eq_comm _ s]
  simp only [match?, List.findSome?_eq_some_iff, hstarts, Option.map_eq_some_iff, Prod.mk.injEq,
    Text.dropPrefix?_eq_some_iff]
  constructor
  · rintro ⟨earlier, later, hall, ⟨rest, rfl⟩, hnone⟩
    exact ⟨rest, earlier, t, later, hall, ⟨rest, rfl, rfl, rfl⟩, hnone⟩
  · rintro ⟨rest, earlier, _, later, hall, ⟨_, rfl, rfl, rfl⟩, hnone⟩
    exact ⟨earlier, later, hall, List.prefix_append _ _, hnone⟩

/-! ## Segments and pieces -/

namespace Segment

/-- The text that segments make up. -/
def chars (segments : List Segment) : List Char := segments.flatMap fun s => s.text.toList

/-- No segments have no characters. -/
@[simp] lemma chars_nil : chars [] = [] := rfl

/-- The characters of the first segment come first. -/
@[simp] lemma chars_cons (s : Segment) (rest : List Segment) :
    chars (s :: rest) = s.text.toList ++ chars rest := rfl

/-- Characters of segments are put one behind the other. -/
@[simp] lemma chars_append (a b : List Segment) : chars (a ++ b) = chars a ++ chars b :=
  List.flatMap_append

/-- Segments make up the same text as characters. -/
lemma toList_join (segments : List Segment) :
    (String.join (segments.map Segment.text)).toList = chars segments := by
  simp [chars, String.toList_join, List.flatMap_map]

/-- The length of segments, in encoded bytes. -/
def size : List Segment → Nat
  | [] => 0
  | s :: rest => s.text.utf8ByteSize + size rest

/-- The piece that a segment is. -/
def piece (s : Segment) : Piece :=
  match s.tag with
  | some t => .tag t
  | none => .literal s.text.toList

/-- The pieces of segments that are the places of pieces. -/
lemma map_piece_locate (d : Char) (offset : Nat) (pieces : List Piece) :
    (locate d offset pieces).map piece = pieces := by
  induction pieces generalizing offset with
  | nil => rfl
  | cons p rest ih =>
    rw [Pass.locate_cons, List.map_cons, ih]
    cases p <;> simp [piece, Piece.tag?, Piece.text]

/-- Pieces with their places are written as they are spelled. -/
lemma text_of_mem_locate {offset : Nat} {pieces : List Piece} (h : s ∈ locate d offset pieces) :
    s.text = String.ofList (s.piece.text d) := by
  induction pieces generalizing offset with
  | nil => cases h
  | cons p rest ih =>
    rw [Pass.locate_cons] at h
    rcases List.mem_cons.1 h with rfl | h
    · cases p <;> simp [piece, Piece.tag?, Piece.text]
    · exact ih h

/-- The place of a piece is behind the pieces before it. -/
lemma offset_of_locate {offset : Nat} {pieces : List Piece}
    (h : locate d offset pieces = before ++ s :: behind) : s.offset = offset + size before := by
  induction pieces generalizing offset before with
  | nil => simp [locate] at h
  | cons p rest ih =>
    rw [Pass.locate_cons] at h
    cases before with
    | nil =>
      obtain ⟨rfl, -⟩ := List.cons_eq_cons.1 h
      rfl
    | cons first before =>
      obtain ⟨rfl, hrest⟩ := List.cons_eq_cons.1 h
      rw [ih hrest]
      simp [size, Nat.add_assoc]

/-- Segments that are spelled as their pieces are make up the text of these. -/
lemma chars_eq_written (h : ∀ s ∈ segments, s.text = String.ofList (s.piece.text d)) :
    chars segments = Piece.written d (segments.map piece) := by
  induction segments with
  | nil => rfl
  | cons s rest ih =>
    rw [chars_cons, List.map_cons, Piece.written_cons, h s List.mem_cons_self,
      String.toList_ofList, ih fun s' hs' => h s' (List.mem_cons_of_mem _ hs')]

/-- Segments are the places of their pieces, if they are spelled as these are and stand where the
segments before them end. -/
lemma locate_map_piece {offset : Nat}
    (htext : ∀ s ∈ segments, s.text = String.ofList (s.piece.text d))
    (hoffset : ∀ ⦃before s behind⦄, segments = before ++ s :: behind →
      s.offset = offset + size before) : locate d offset (segments.map piece) = segments := by
  induction segments generalizing offset with
  | nil => rfl
  | cons s rest ih =>
    have hfirst : s.offset = offset := hoffset (show s :: rest = [] ++ s :: rest from rfl)
    have hrest : locate d (offset + s.text.utf8ByteSize) (rest.map piece) = rest := ih
      (fun s' hs' => htext s' (List.mem_cons_of_mem _ hs'))
      (fun before s' behind hs' => by
        rw [hoffset (show s :: rest = (s :: before) ++ s' :: behind by rw [hs', List.cons_append])]
        simp [size, Nat.add_assoc])
    have htag : s.piece.tag? = s.tag := by
      unfold piece
      cases s.tag <;> rfl
    rw [List.map_cons, Pass.locate_cons, ← htext s List.mem_cons_self, htag, hrest, ← hfirst]

end Segment

/-- What is behind a part of a tiling is a tiling. -/
lemma Piece.Tiled.of_append {front rest : List Piece} (h : Tiled d (front ++ rest)) :
    Tiled d rest := by
  induction front with
  | nil => exact h
  | cons _ _ ih =>
    cases h with
    | tag _ h => exact ih h
    | literal _ _ _ h => exact ih h

/-! ## The leftmost cut -/

/-- **Segments that are the leftmost cut of a text.** -/
structure Segmentation (d : Char) (text : String) (segments : List Segment) : Prop where
  /-- The segments make up the text. -/
  join : String.join (segments.map Segment.text) = text
  /-- Each begins where those before it end, in encoded bytes. -/
  offset : ∀ ⦃before s behind⦄, segments = before ++ s :: behind → s.offset = Segment.size before
  /-- None is empty. -/
  nonempty : ∀ s ∈ segments, s.text ≠ ""
  /-- No two literals stand side by side. -/
  separated : ∀ ⦃before s s' behind⦄, segments = before ++ s :: s' :: behind →
    s.tag = none → s'.tag ≠ none
  /-- A tag is the first that the text from its place on allows, and nothing more. -/
  tag : ∀ ⦃before s behind⦄, segments = before ++ s :: behind → ∀ t, s.tag = some t →
    s.text = String.ofList (t.text d) ∧ t.IsFirst d (Segment.chars (s :: behind))
  /-- No tag stands in the text from any place inside a literal on. -/
  literal : ∀ ⦃before s behind⦄, segments = before ++ s :: behind → s.tag = none →
    ∀ front inner, s.text.toList = front ++ inner → inner ≠ [] →
      ∀ t : Tag, ¬ t.text d <+: inner ++ Segment.chars behind

namespace Segmentation

/-- Segments are spelled as their pieces are. -/
lemma text_eq (h : Segmentation d text segments) (hs : s ∈ segments) :
    s.text = String.ofList (s.piece.text d) := by
  obtain ⟨before, behind, hsplit⟩ := List.append_of_mem hs
  unfold Segment.piece
  cases htag : s.tag with
  | none => simp [Piece.text]
  | some t => exact (h.tag hsplit t htag).1

/-- The text from a segment on is that of the pieces from it on. -/
lemma chars_eq (h : Segmentation d text segments) (hsplit : segments = before ++ behind) :
    Segment.chars behind = Piece.written d (behind.map Segment.piece) :=
  Segment.chars_eq_written fun _ hs => h.text_eq (hsplit ▸ List.mem_append_right _ hs)

/-- **The pieces of a leftmost cut are a tiling.**

**Proof sketch.** Induction on the segments that are left, from the back.  What a segment has to be
is said of the text behind it, which the pieces behind it make up. -/
theorem tiled (h : Segmentation d text segments) (hsplit : segments = before ++ behind) :
    Piece.Tiled d (behind.map Segment.piece) := by
  induction behind generalizing before with
  | nil => exact .nil
  | cons s rest ih =>
    have hrest : segments = (before ++ [s]) ++ rest := by simpa using hsplit
    have htiled := ih hrest
    have hchars := h.chars_eq hrest
    rw [List.map_cons]
    cases htag : s.tag with
    | some t =>
      have hpiece : s.piece = .tag t := by simp [Segment.piece, htag]
      obtain ⟨htext, hfirst⟩ := h.tag hsplit t htag
      rw [Segment.chars_cons, htext, String.toList_ofList, hchars] at hfirst
      obtain ⟨rest', hmatch⟩ := Tag.isFirst_iff.1 hfirst
      have hbehind := List.append_cancel_left (Tag.match?_eq_append hmatch)
      rw [hpiece]
      exact .tag (hbehind ▸ hmatch) htiled
    | none =>
      have hpiece : s.piece = .literal s.text.toList := by simp [Segment.piece, htag]
      rw [hpiece]
      refine .literal ?_ ?_ ?_ htiled
      · have hne := h.nonempty s (by rw [hsplit]; simp)
        rwa [ne_eq, String.toList_eq_nil_iff]
      · intro text' hhead
        cases rest with
        | nil => cases hhead
        | cons s' rest =>
          obtain ⟨t, ht⟩ := Option.ne_none_iff_exists'.1 (h.separated hsplit htag)
          simp [Segment.piece, ht] at hhead
      · rintro inner ⟨front, hinner⟩ hne
        rw [Tag.match?_eq_none_iff, ← hchars]
        exact h.literal hsplit htag front inner hinner.symm hne

end Segmentation

/-- **The segments of a text are a leftmost cut.**

**Proof sketch.** The pieces of the text tile it (`Piece.tiled_split`), and so do the pieces from
any segment on.  Each property speaks of a segment and what is behind it, and is read off the tiling
that begins there. -/
theorem segmentation_split (d : Char) (text : String) :
    Segmentation d text (Segment.split d text) := by
  have htext : ∀ s ∈ Segment.split d text, s.text = String.ofList (s.piece.text d) :=
    fun s hs => Segment.text_of_mem_locate hs
  have hpieces : (Segment.split d text).map Segment.piece = Piece.split d text.toList :=
    Segment.map_piece_locate d 0 _
  -- From any segment on, the pieces are a tiling of the text from it on.
  have htiled {before s behind} (hsplit : Segment.split d text = before ++ s :: behind) :
      Piece.Tiled d (s.piece :: behind.map Segment.piece) := by
    have hall := Piece.tiled_split d text.toList
    rw [← hpieces, hsplit, List.map_append] at hall
    exact hall.of_append
  have hchars {before s behind} (hsplit : Segment.split d text = before ++ s :: behind) :
      Segment.chars behind = Piece.written d (behind.map Segment.piece) :=
    Segment.chars_eq_written fun s' hs' => htext s' (by simp [hsplit, hs'])
  constructor
  case join => exact Segment.join_split d text
  case offset =>
    intro before s behind hsplit
    simpa using Segment.offset_of_locate hsplit
  case nonempty =>
    intro s hs
    obtain ⟨before, behind, hsplit⟩ := List.append_of_mem hs
    rw [htext s hs, ne_eq, String.ofList_eq_empty_iff]
    cases hpiece : s.piece with
    | tag t => exact Tag.text_ne_nil d t
    | literal text' =>
      have hliteral := hpiece ▸ htiled hsplit
      cases hliteral with
      | literal hne _ _ _ => exact hne
  case separated =>
    intro before s s' behind hsplit htag htag'
    have hliteral := htiled hsplit
    rw [Segment.piece, htag] at hliteral
    cases hliteral with
    | literal _ hno _ _ => exact hno s'.text.toList (by simp [Segment.piece, htag'])
  case tag =>
    intro before s behind hsplit t htag
    have hpiece : s.piece = .tag t := by simp [Segment.piece, htag]
    have hspelled : s.text = String.ofList (t.text d) := by
      rw [htext s (by simp [hsplit]), hpiece, Piece.text]
    refine ⟨hspelled, ?_⟩
    have hfirst := hpiece ▸ htiled hsplit
    rw [Segment.chars_cons, hspelled, String.toList_ofList, hchars hsplit]
    cases hfirst with
    | tag hmatch _ => exact Tag.isFirst_iff.2 ⟨_, hmatch⟩
  case literal =>
    intro before s behind hsplit htag front inner hinner hne
    have hliteral := htiled hsplit
    rw [Segment.piece, htag] at hliteral
    rw [hchars hsplit, ← Tag.match?_eq_none_iff]
    cases hliteral with
    | literal _ _ hfree _ => exact hfree inner ⟨front, hinner.symm⟩ hne

/-- **The segments of a text are its one leftmost cut.**  With a delimiter that can be used, every
text is cut into segments: they make up the text, each begins where those before it end, none is
empty, no two literals stand side by side, each tag is the first that its place allows, and no tag
stands anywhere in a literal.  No other segments are such.

**Proof sketch.** The pieces of such segments are a tiling of the text, and there is one tiling
(`Piece.split_eq_iff`); the places are settled by the pieces. -/
theorem Segment.segmentation_iff_split (hd : Delimiter.isValid d = true) (text : String) :
    Segment.splitChecked d text = .ok (Segment.split d text) ∧
      ∀ segments, Segmentation d text segments ↔ segments = Segment.split d text := by
  refine ⟨if_pos hd, fun segments => ⟨fun h => ?_, fun h => h ▸ segmentation_split d text⟩⟩
  have hwritten : Piece.written d (segments.map piece) = text.toList := by
    rw [← h.chars_eq (show segments = [] ++ segments from rfl), ← toList_join, h.join]
  have hpieces : Piece.split d text.toList = segments.map piece :=
    Piece.split_eq_iff.2 ⟨hwritten, h.tiled (show segments = [] ++ segments from rfl)⟩
  rw [split, hpieces, locate_map_piece fun s hs => h.text_eq hs]
  intro before s behind hsplit
  rw [h.offset hsplit, Nat.zero_add]

/-- A text in which tags share characters, behind a letter of two bytes. -/
theorem Segment.segmentation_iff_split_overlapping :
    let cut : List Segment := [⟨"é", 0, none⟩, ⟨"<%%", 2, some .literal⟩, ⟨">-", 5, none⟩,
      ⟨"<%-", 7, some .openRaw⟩, ⟨"%>", 10, some .close⟩, ⟨"-%>", 12, some .closeTrim⟩]
    Delimiter.isValid '%' = true ∧ Segment.splitChecked '%' "é<%%>-<%-%>-%>" = .ok cut ∧
      ∀ segments, Segmentation '%' "é<%%>-<%-%>-%>" segments ↔ segments = cut := by
  intro cut
  have hd : Delimiter.isValid '%' = true := by decide
  have hcut : Segment.split '%' "é<%%>-<%-%>-%>" = cut := by decide +kernel
  exact ⟨hd, hcut ▸ Segment.segmentation_iff_split hd _⟩

end Stencil
