import Stencil.Proofs.Template.Trimming

/-!
# Openers turned into comments

In a text, the openers of some directives may be replaced by `<%#`, shown here for the delimiter
`%`.  The text is then cut into the same pieces but for these openers, and a text in normal form
stays in normal form.

## Main definitions

* `Stencil.Piece.commentOut` — pieces with the openers of some directives replaced.
* `Stencil.Template.commentOut` — a text with the openers of some directives replaced.

## Main results

* `Stencil.Whitespace.normalize_eq_self_iff` — the texts in normal form.
* `Stencil.Template.split_commentOut` — the pieces of such a text are the pieces, replaced.
* `Stencil.Template.normalize_commentOut` — such a text is in normal form if the text was.

## Design

Which directives are meant is a function of what they are written as.  Only openers behind which
directives are recognised are replaced, and only in front of a literal, so all that can change for
the literals beside them is the tag that they stand in front of; and all openers begin alike.
-/

set_option relaxedAutoImplicit false
set_option autoImplicit false

namespace Stencil

variable {d : Char} {drops : String → Bool}

/-- Tags show something. -/
lemma Tag.not_isBlank (hd : Delimiter.isValid d = true) {t : Tag} {c : Char} (h : c ∈ t.text d) :
    Text.isBlank c = false := by
  have hdelim := Delimiter.not_isBlank hd
  cases t <;> simp only [text, List.mem_cons, List.not_mem_nil, or_false] at h <;>
    rcases h with rfl | rfl | rfl <;> first | exact hdelim | decide

/-! ## The pieces -/

namespace Piece

variable {pieces rest : List Piece} {t : Tag} {s : List Char}

/-- Whether a literal comes first that is to be dropped. -/
def beginsDropped (drops : String → Bool) : List Piece → Bool
  | .literal s :: _ => drops (String.ofList s)
  | _ => false

/-- The tag that stands in the place of a tag: the opener of a comment, if a directive that is
to be dropped follows. -/
def opener (drops : String → Bool) (t : Tag) (behind : List Piece) : Tag :=
  if t.acceptsDirective && beginsDropped drops behind then .openComment else t

/-- **Pieces with the openers of some directives replaced** by that of a comment. -/
def commentOut (drops : String → Bool) : List Piece → List Piece
  | [] => []
  | .tag t :: rest => .tag (opener drops t rest) :: commentOut drops rest
  | .literal s :: rest => .literal s :: commentOut drops rest

/-- A tag stays as it is, or it is an opener and becomes another. -/
lemma opener_cases (drops : String → Bool) (t : Tag) (behind : List Piece) :
    opener drops t behind = t ∨
      opener drops t behind = .openComment ∧ t.acceptsDirective = true := by
  unfold opener
  split
  · next h => exact .inr ⟨rfl, (Bool.and_eq_true_iff.1 h).1⟩
  · exact .inl rfl

/-- All openers begin alike. -/
lemma head_opener (d : Char) (drops : String → Bool) (t : Tag) (behind : List Piece) :
    ((opener drops t behind).text d).head? = (t.text d).head? := by
  rcases opener_cases drops t behind with heq | ⟨heq, ht⟩
  · rw [heq]
  · rw [heq]
    cases t <;> first | rfl | cases ht

/-- The text of the pieces begins as before. -/
lemma Tiled.head_commentOut (h : Tiled d pieces) :
    (written d (commentOut drops pieces)).head? = (written d pieces).head? := by
  cases h with
  | nil => rfl
  | tag _ _ =>
    rw [commentOut, written_cons, written_cons, text, text,
      List.head?_append_of_ne_nil _ (Tag.text_ne_nil d _),
      List.head?_append_of_ne_nil _ (Tag.text_ne_nil d _), head_opener]
  | literal hne _ _ _ =>
    rw [commentOut, written_cons, written_cons, text, List.head?_append_of_ne_nil _ hne,
      List.head?_append_of_ne_nil _ hne]

/-- Commenting directives out puts no literal in front. -/
lemma NoLiteral.commentOut (h : NoLiteral pieces) : NoLiteral (commentOut drops pieces) := by
  obtain rfl | ⟨t, rest, rfl⟩ := h.cases
  · exact h
  · exact .tag _ _

/-- A tiling stays one when openers are replaced.

**Proof sketch.** The opener of a comment is a tag wherever it stands.  Other tags depend at most on
the character behind them, which stays, and the tag behind a literal is replaced by one that begins
with `<` only if it does so itself. -/
theorem Tiled.commentOut (hd : Delimiter.isValid d = true) (h : Tiled d pieces) :
    Tiled d (commentOut drops pieces) := by
  induction h with
  | nil => exact .nil
  | @tag t rest hmatch hrest ih =>
    refine .tag ?_ ih
    rcases opener_cases drops t rest with heq | ⟨heq, -⟩
    · rw [heq]
      exact match?_of_head hd hmatch fun _ => .inl hrest.head_commentOut
    · rw [heq]
      exact (Tag.match?_eq_some_iff hd).2 ⟨rfl, fun h => by cases h⟩
  | @literal s rest hne hno hfree hrest ih =>
    refine .literal hne hno.commentOut ?_ ih
    obtain rfl | ⟨t, behind, rfl⟩ := hno.cases
    · exact hfree
    · rw [Piece.commentOut, written_cons, text]
      rcases opener_cases drops t behind with heq | ⟨heq, -⟩
      · rw [heq]
        exact hfree.of_tag _
      · rw [heq]
        exact hfree.of_prefix hd List.prefix_rfl

/-- White space in the text of the pieces was there before. -/
lemma mem_of_mem_commentOut (hd : Delimiter.isValid d = true) {c : Char}
    (hc : Text.isBlank c = true) (h : c ∈ written d (commentOut drops pieces)) :
    c ∈ written d pieces := by
  have htag (t : Tag) : c ∉ t.text d := fun hmem => by simp [Tag.not_isBlank hd hmem] at hc
  induction pieces with
  | nil => exact h
  | cons piece rest ih =>
    rw [written_cons, List.mem_append]
    cases piece with
    | tag t =>
      rw [commentOut, written_cons, List.mem_append] at h
      exact .inr (ih (h.resolve_left (htag _)))
    | literal s =>
      rw [commentOut, written_cons, List.mem_append] at h
      exact h.imp_right ih

/-! ### Slurping -/

/-- What is kept is one piece at most. -/
lemma length_kept_le (s : List Char) : (kept s).length ≤ 1 := by
  unfold kept
  split <;> simp

/-- What eats white space before tags makes no more pieces. -/
lemma length_slurpBefore_le (pieces : List Piece) :
    (slurpBefore pieces).length ≤ pieces.length := by
  induction pieces with
  | nil => exact le_rfl
  | cons piece rest ih =>
    cases piece with
    | tag t => simpa [slurpBefore] using ih
    | literal s =>
      rw [slurpBefore, List.length_append, List.length_cons, Nat.add_comm]
      exact Nat.add_le_add ih (length_kept_le _)

/-- So does what eats it behind tags. -/
lemma length_slurpBehind_le (eating : Bool) (pieces : List Piece) :
    (slurpBehind eating pieces).length ≤ pieces.length := by
  fun_induction slurpBehind eating pieces with
  | case1 => exact le_rfl
  | case2 eating rest ih => simpa using ih
  | case3 eating t rest hpair ih => simpa using ih
  | case4 eating s rest ih =>
    rw [List.length_append, List.length_cons, Nat.add_comm]
    exact Nat.add_le_add ih (length_kept_le _)

/-- A literal is kept as it is if no piece is lost. -/
lemma eq_of_kept_append {u : List Char} {rest' : List Piece} (hlen : rest'.length ≤ rest.length)
    (h : kept u ++ rest' = .literal s :: rest) : kept s = [.literal s] ∧ u = s ∧ rest' = rest := by
  unfold kept at h
  split at h
  · rw [List.nil_append] at h
    rw [h, List.length_cons] at hlen
    omega
  · next hne =>
    obtain ⟨hu, hrest⟩ := List.cons.inj h
    cases hu
    exact ⟨if_neg hne, rfl, hrest⟩

/-- Where nothing is slurped before openers, nothing is after some are replaced.

**Proof sketch.** Induction on the pieces.  A slurping opener of the text with comments was one
before, since what is replaced becomes the opener of a comment. -/
lemma slurpBefore_commentOut (h : slurpBefore pieces = pieces) :
    slurpBefore (commentOut drops pieces) = commentOut drops pieces := by
  induction pieces with
  | nil => rfl
  | cons piece rest ih =>
    cases piece with
    | tag t =>
      rw [commentOut, slurpBefore, ih (List.cons.inj h).2]
    | literal s =>
      obtain ⟨hkept, hs, hrest⟩ := eq_of_kept_append (length_slurpBefore_le rest) h
      have hopener : (commentOut drops rest).head? = some (.tag .openSlurp) →
          rest.head? = some (.tag .openSlurp) := by
        intro hhead
        cases rest with
        | nil => cases hhead
        | cons piece behind =>
          cases piece with
          | literal s' => cases hhead
          | tag t =>
            have htag : opener drops t behind = .openSlurp := by simpa [commentOut] using hhead
            rcases opener_cases drops t behind with heq | ⟨heq, -⟩
            · rw [← heq, htag]
              rfl
            · cases heq.symm.trans htag
      rw [commentOut, slurpBefore, ih hrest]
      split
      · next hhead =>
        rw [if_pos (hopener hhead)] at hs
        rw [hs, hkept]
        rfl
      · rw [hkept]
        rfl

/-- A tag that stands where a closer stood is that closer. -/
lemma opener_eq_closer_iff {behind : List Piece} {c : Tag} (hc : c.isCloser = true) :
    opener drops t behind = c ↔ t = c := by
  rcases opener_cases drops t behind with heq | ⟨heq, ht⟩
  · rw [heq]
  · rw [heq]
    constructor
    · rintro rfl
      cases hc
    · rintro rfl
      cases t <;> simp_all [Tag.isCloser, Tag.acceptsDirective]

/-- Where nothing is slurped behind closers, nothing is after some openers are replaced.

**Proof sketch.** Induction along the pass.  A tag that closes is never replaced, so the pass is in
the same state in both texts.  A slurping opener with a closer right behind it is taken for no
closer at all; it stands in both texts or in neither. -/
lemma slurpBehind_commentOut {eating : Bool} (h : slurpBehind eating pieces = pieces) :
    slurpBehind eating (commentOut drops pieces) = commentOut drops pieces := by
  fun_induction slurpBehind eating pieces with
  | case1 => rfl
  | case2 eating rest ih =>
    have hrest := ih (by simpa using h)
    rw [commentOut, commentOut, opener, opener, if_neg (by simp [beginsDropped]),
      if_neg (by simp [Tag.acceptsDirective]), slurpBehind, hrest]
  | case3 eating t rest hpair ih =>
    have hrest := ih (List.cons.inj h).2
    have hcloser : decide (opener drops t rest = .closeSlurp) = decide (t = .closeSlurp) :=
      decide_eq_decide.2 (opener_eq_closer_iff rfl)
    rw [← hcloser] at hrest
    rw [commentOut, slurpBehind, hrest]
    intro behind hbehind htag
    cases rest with
    | nil => cases hbehind
    | cons piece rest =>
      cases piece with
      | literal s => cases hbehind
      | tag t' =>
        have hclose : t' = .close := (opener_eq_closer_iff rfl).1 (by
          simpa [commentOut] using congrArg List.head? hbehind)
        have hopen : t = .openSlurp := by
          rcases opener_cases drops t (.tag t' :: rest) with heq | ⟨heq, -⟩
          · rw [← heq, htag]
          · cases heq.symm.trans htag
        exact hpair rest (by rw [hclose]) hopen
  | case4 eating s rest ih =>
    obtain ⟨hkept, hs, hrest⟩ := eq_of_kept_append (length_slurpBehind_le false rest) h
    rw [commentOut, slurpBehind, hs, ih hrest, hkept]
    rfl

end Piece

/-! ## The text -/

namespace Whitespace

open Text (isBlank)

/-- Trimming only takes characters away. -/
lemma trimFrom_sublist (lineStart : Bool) (skip : Nat) (s : List Char) :
    (trimFrom lineStart skip s).Sublist s := by
  induction s generalizing lineStart skip with
  | nil => cases skip <;> exact .slnil
  | cons c s ih =>
    cases skip with
    | succ skip => exact (ih _ _).cons c
    | zero =>
      rw [trimFrom]
      split
      · exact (ih _ _).cons_cons c
      · exact (ih _ _).cons c

/-- **The texts in normal form:** nothing is trimmed, and nothing is slurped.

**Proof sketch.** Normalization takes away carriage returns, then what is trimmed, then what is
slurped, so each stage leaves a sublist.  If the text comes out as it went in, all stages have left
as many characters as they were given, and so the same ones. -/
theorem normalize_eq_self_iff (hd : Delimiter.isValid d = true) (trim : Bool) (text : String) :
    normalize d trim text = text ↔
      (trim = true → '\r' ∉ text.toList ∧ trimEdges text.toList = text.toList) ∧
        ¬ Slurped d text.toList := by
  have hslurp (s : List Char) :
      (slurpAfter (Tag.closeSlurp.text d) (slurpBefore (Tag.openSlurp.text d) s)).Sublist s :=
    (slurpFrom_sublist _ _ _ _).trans (slurpBefore_sublist _ _)
  have hreturn : text.toList.filter (· ≠ '\r') = text.toList ↔ '\r' ∉ text.toList := by
    rw [List.filter_eq_self]
    constructor
    · intro h hmem
      simpa using h _ hmem
    · intro h c hc
      simpa using fun heq : c = '\r' => h (heq ▸ hc)
  rw [normalize, ← slurp_eq_self_iff hd, ← String.toList_inj, String.toList_ofList]
  cases trim with
  | false => simp
  | true =>
    rw [if_pos rfl]
    constructor
    · intro h
      have htrimmed := (hslurp (trimEdges (text.toList.filter (· ≠ '\r')))).trans
        (trimFrom_sublist true 0 _)
      rw [h] at htrimmed
      have hfilter : text.toList.filter (· ≠ '\r') = text.toList :=
        List.filter_sublist.eq_of_length_le htrimmed.length_le
      have hedges := hslurp (trimEdges (text.toList.filter (· ≠ '\r')))
      rw [h, hfilter] at hedges
      have htrim : trimEdges text.toList = text.toList :=
        (trimFrom_sublist true 0 _).eq_of_length_le hedges.length_le
      rw [hfilter, htrim] at h
      exact ⟨fun _ => ⟨hreturn.1 hfilter, htrim⟩, h⟩
    · rintro ⟨hnormal, h⟩
      obtain ⟨hnone, htrim⟩ := hnormal rfl
      rw [hreturn.2 hnone, htrim, h]

/-- What is trimmed at the beginning of a text does not depend on how the text goes on behind
something that is shown, or on whether it goes on at all.

**Proof sketch.** The run of blanks at the beginning ends in `s` for both texts, since what follows
`s` begins with something that is shown.  What is trimmed is counted from that run, and whether the
run is the whole text is known from whether anything follows. -/
lemma removable_append {s y y' : List Char} (hy : ∀ c ∈ y.head?, isBlank c = false)
    (hy' : ∀ c ∈ y'.head?, isBlank c = false) (hnil : y = [] ↔ y' = []) (lineStart : Bool) :
    removable lineStart (s ++ y) = removable lineStart (s ++ y') ∧
      removable lineStart (s ++ y) ≤ s.length := by
  have hrun {y : List Char} (hy : ∀ c ∈ y.head?, isBlank c = false) :
      (s ++ y).takeWhile isBlank = s.takeWhile isBlank := by
    have hnone : y.takeWhile isBlank = [] := by
      cases y with
      | nil => rfl
      | cons c y => simp [hy c rfl]
    rw [List.takeWhile_append]
    split
    · next hall => rw [hnone, List.append_nil, (List.takeWhile_prefix isBlank).eq_of_length hall]
    · rfl
  have hlen := (List.takeWhile_prefix isBlank (l := s)).length_le
  have hlast : beforeLastNewline (s.takeWhile isBlank) ≤ s.length := by
    have hdrop := (List.dropWhile_suffix (· ≠ '\n') (l := (s.takeWhile isBlank).reverse)).length_le
    rw [List.length_reverse] at hdrop
    rw [beforeLastNewline]
    omega
  have hends : ((s.takeWhile isBlank).length == (s ++ y).length) =
      ((s.takeWhile isBlank).length == (s ++ y').length) := by
    by_cases hempty : y = []
    · rw [hempty, hnil.1 hempty]
    · have hpos := List.length_pos_iff.2 hempty
      have hpos' := List.length_pos_iff.2 (mt hnil.2 hempty)
      have hlonger (z : List Char) (hz : 0 < z.length) :
          ((s.takeWhile isBlank).length == (s ++ z).length) = false := by
        rw [beq_eq_false_iff_ne, List.length_append]
        omega
      rw [hlonger y hpos, hlonger y' hpos']
  rw [removable, removable, hrun hy, hrun hy']
  refine ⟨?_, ?_⟩
  · simp only [hends]
  · split
    · exact hlen
    · exact hlast

/-- A text is trimmed in the same way whatever it goes on with, as long as that shows something
at its beginning.

**Proof sketch.** Induction on the text, with the start of a line and the count to skip generalized.
What is removed at each place is the same for both texts and ends in `s` (`removable_append`). -/
lemma exists_trimFrom_append {y y' : List Char} (hy : ∀ c ∈ y.head?, isBlank c = false)
    (hy' : ∀ c ∈ y'.head?, isBlank c = false) (hnil : y = [] ↔ y' = []) (s : List Char)
    (lineStart : Bool) {skip : Nat} (hskip : skip ≤ s.length) :
    ∃ u line, u.Sublist s ∧ trimFrom lineStart skip (s ++ y) = u ++ trimFrom line 0 y ∧
      trimFrom lineStart skip (s ++ y') = u ++ trimFrom line 0 y' := by
  induction s generalizing lineStart skip with
  | nil =>
    obtain rfl : skip = 0 := by simpa using hskip
    exact ⟨[], lineStart, .slnil, rfl, rfl⟩
  | cons c s ih =>
    cases skip with
    | succ skip =>
      obtain ⟨u, line, hsub, h, h'⟩ := ih (c == '\n') (by simpa using hskip)
      exact ⟨u, line, hsub.cons c, h, h'⟩
    | zero =>
      obtain ⟨hsame, hle⟩ := removable_append (s := c :: s) hy hy' hnil lineStart
      cases hremove : removable lineStart (c :: s ++ y) with
      | zero =>
        rw [hremove] at hsame
        obtain ⟨u, line, hsub, h, h'⟩ := ih (c == '\n') (Nat.zero_le _)
        exact ⟨c :: u, line, hsub.cons_cons c,
          (trimFrom_keep hremove).trans (congrArg (c :: ·) h),
          (trimFrom_keep hsame.symm).trans (congrArg (c :: ·) h')⟩
      | succ more =>
        rw [hremove] at hsame hle
        rw [List.length_cons, Nat.succ_le_succ_iff] at hle
        obtain ⟨u, line, hsub, h, h'⟩ := ih (c == '\n') hle
        refine ⟨u, line, hsub.cons c, ?_, ?_⟩
        · rw [List.cons_append] at hremove ⊢
          rw [trimFrom, hremove, ← h]
        · rw [List.cons_append] at hsame ⊢
          rw [trimFrom, ← hsame, ← h']

/-- A tag is kept, and no line begins behind it. -/
lemma trimFrom_tag (hd : Delimiter.isValid d = true) (t : Tag) (lineStart : Bool) (s : List Char) :
    trimFrom lineStart 0 (t.text d ++ s) = t.text d ++ trimFrom false 0 s := by
  have hkeep {u : List Char} (hu : ∀ c ∈ u, isBlank c = false) :
      trimFrom false 0 (u ++ s) = u ++ trimFrom false 0 s := by
    induction u with
    | nil => rfl
    | cons c u ih =>
      rw [List.cons_append, trimFrom_shown (hu c List.mem_cons_self),
        ih fun c hc => hu c (List.mem_cons_of_mem _ hc), List.cons_append]
  have hshown : ∀ c ∈ t.text d, isBlank c = false := fun c => Tag.not_isBlank hd
  rw [trimFrom_of_shown ?_, hkeep hshown]
  intro c hc
  rw [List.head?_append_of_ne_nil _ (Tag.text_ne_nil d t)] at hc
  exact hshown c (List.mem_of_head? hc)

end Whitespace

namespace Piece

variable {pieces : List Piece}

/-- What does not begin with a literal begins with something that is shown, if with anything. -/
lemma NoLiteral.head_shown (hd : Delimiter.isValid d = true) (h : NoLiteral pieces) :
    ∀ c ∈ (written d pieces).head?, Text.isBlank c = false := by
  obtain rfl | ⟨t, rest, rfl⟩ := h.cases
  · simp
  · intro c hc
    rw [written_cons, text, List.head?_append_of_ne_nil _ (Tag.text_ne_nil d t)] at hc
    exact Tag.not_isBlank hd (List.mem_of_head? hc)

/-- Where nothing is trimmed, nothing is after some openers are replaced.

**Proof sketch.** Induction on the tiling.  Tags are passed alike.  What is trimmed of a literal
depends on the pieces behind it only as to whether there are any, since they begin with a tag. -/
lemma Tiled.trimFrom_commentOut (hd : Delimiter.isValid d = true) (h : Tiled d pieces)
    {lineStart : Bool}
    (hself : Whitespace.trimFrom lineStart 0 (written d pieces) = written d pieces) :
    Whitespace.trimFrom lineStart 0 (written d (Piece.commentOut drops pieces)) =
      written d (Piece.commentOut drops pieces) := by
  induction h generalizing lineStart with
  | nil => exact hself
  | tag _ _ ih =>
    rw [written_cons, text, Whitespace.trimFrom_tag hd] at hself
    rw [Piece.commentOut, written_cons, text, Whitespace.trimFrom_tag hd,
      ih (List.append_cancel_left hself)]
  | @literal s rest _ hno _ hrest ih =>
    have hnil : written d rest = [] ↔ written d (Piece.commentOut drops rest) = [] := by
      rw [← List.head?_eq_none_iff, ← List.head?_eq_none_iff, hrest.head_commentOut]
    obtain ⟨u, line, hsub, hold, hnew⟩ := Whitespace.exists_trimFrom_append (hno.head_shown hd)
      (NoLiteral.head_shown hd hno.commentOut) hnil s lineStart (Nat.zero_le s.length)
    rw [written_cons, text, hold] at hself
    have hlen := congrArg List.length hself
    have hu := hsub.length_le
    have hrestlen := (Whitespace.trimFrom_sublist line 0 (written d rest)).length_le
    rw [List.length_append, List.length_append] at hlen
    obtain ⟨rfl, hkept⟩ := List.append_inj hself (by omega)
    rw [Piece.commentOut, written_cons, text, hnew, ih hkept]

end Piece

namespace Template

/-- **A text with the openers of some directives replaced** by that of a comment. -/
def commentOut (d : Char) (drops : String → Bool) (text : String) : String :=
  String.ofList (Piece.written d (Piece.commentOut drops (Piece.split d text.toList)))

/-- **The pieces of such a text** are those of the text, replaced. -/
theorem split_commentOut (hd : Delimiter.isValid d = true) (drops : String → Bool)
    (text : String) :
    Piece.split d (commentOut d drops text).toList =
      Piece.commentOut drops (Piece.split d text.toList) := by
  rw [Piece.split_eq_iff, commentOut, String.toList_ofList]
  exact ⟨rfl, (Piece.tiled_split d text.toList).commentOut hd⟩

/-- Nothing is slurped in such a text if nothing was before.

**Proof sketch.** Slurping is read on the pieces, in either direction (`written_slurpBefore`,
`written_slurpBehind`).  It changes nothing there, and so it changes nothing after some openers are
replaced. -/
lemma not_slurped_commentOut (hd : Delimiter.isValid d = true) (drops : String → Bool)
    {text : String} (h : ¬ Whitespace.Slurped d text.toList) :
    ¬ Whitespace.Slurped d (commentOut d drops text).toList := by
  have htiled := Piece.tiled_split d text.toList
  have hwritten : Piece.written d (Piece.split d text.toList) = text.toList :=
    Piece.flatMap_text_split d _
  have hbefore : Piece.slurpBefore (Piece.split d text.toList) = Piece.split d text.toList := by
    refine (Piece.split_eq_iff.2 ⟨?_, htiled.slurpBefore hd⟩).symm
    rw [← htiled.written_slurpBefore hd, hwritten]
    exact (Whitespace.slurpBefore_eq_self_iff hd _).2 fun c hc hopen => h ⟨c, hc, .inl hopen⟩
  have hbehind : Piece.slurpBehind false (Piece.split d text.toList) =
      Piece.split d text.toList := by
    refine (Piece.split_eq_iff.2 ⟨?_, htiled.slurpBehind hd false⟩).symm
    rw [← htiled.written_slurpBehind hd, hwritten]
    exact (Whitespace.slurpAfter_eq_self_iff hd _).2 fun c hc hclose => h ⟨c, hc, .inr hclose⟩
  have hnew : Piece.Tiled d (Piece.commentOut drops (Piece.split d text.toList)) :=
    htiled.commentOut hd
  have hslurped := hnew.written_slurpBefore hd
  rw [Piece.slurpBefore_commentOut hbefore] at hslurped
  have hslurped' := hnew.written_slurpBehind hd false
  rw [Piece.slurpBehind_commentOut hbehind] at hslurped'
  rw [← Whitespace.slurp_eq_self_iff hd, commentOut, String.toList_ofList, hslurped]
  exact hslurped'

/-- **A text in normal form stays so** when the openers of some directives are replaced. -/
theorem normalize_commentOut (hd : Delimiter.isValid d = true) (drops : String → Bool)
    {trim : Bool} {text : String} (h : Whitespace.normalize d trim text = text) :
    Whitespace.normalize d trim (commentOut d drops text) = commentOut d drops text := by
  rw [Whitespace.normalize_eq_self_iff hd] at h ⊢
  refine ⟨fun htrim => ?_, not_slurped_commentOut hd drops h.2⟩
  obtain ⟨hreturn, hedges⟩ := h.1 htrim
  have hwritten : Piece.written d (Piece.split d text.toList) = text.toList :=
    Piece.flatMap_text_split d _
  rw [← hwritten] at hreturn hedges
  rw [commentOut, String.toList_ofList]
  exact ⟨fun hmem => hreturn (Piece.mem_of_mem_commentOut hd (by decide) hmem),
    (Piece.tiled_split d text.toList).trimFrom_commentOut hd hedges⟩

/-- An include in the middle of a line is commented out, and one in a comment stays. -/
example : commentOut '%' (fun s => (Directive.parse? s).isSome) "a <%_ include b -%><%# endAt %>" =
    "a <%# include b -%><%# endAt %>" := by decide +kernel

end Template

end Stencil
