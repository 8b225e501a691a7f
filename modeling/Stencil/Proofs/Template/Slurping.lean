import Mathlib.Data.List.DropRight
import Stencil.Proofs.Template.Tiling
import Stencil.Template.Whitespace

/-!
# Slurping tags

Spaces and tabs beside a slurping tag are removed from the text of a template, before it is cut into
pieces.  On the pieces this is the same as shortening the literals that stand beside such a tag: no
tag comes about by it and none is lost.

## Main definitions

* `Stencil.Piece.slurp` — pieces without the spaces and tabs beside slurping tags.

## Main results

* `Stencil.Piece.split_normalize` — the pieces of a text in normal form are its pieces, slurped.

## Design

A tag that opens and slurps ends in the character that a tag that closes and slurps begins with.  So
`<%_%>` has the text `_%>` in it, although it is cut into `<%_` and `%>`, and the spaces and tabs
behind it are removed as well.  `slurpBehind` has a case of its own for that pair.
-/

set_option relaxedAutoImplicit false
set_option autoImplicit false

namespace Stencil

variable {d : Char}

/-! ## What stands inside and behind a literal -/

namespace Tag

/-- No tag is longer than three characters. -/
lemma length_text_le (d : Char) (tag : Tag) : (tag.text d).length ≤ 3 := by
  cases tag <;> simp [text]

/-- Every tag has at least two characters. -/
lemma le_length_text (d : Char) (tag : Tag) : 2 ≤ (tag.text d).length := by
  cases tag <;> simp [text]

/-- A tag has its bracket only at its beginning, so it does not reach into the next opening tag. -/
lemma prefix_of_prefix_append_lt (hd : Delimiter.isValid d = true) {tag : Tag}
    {inner behind : List Char} (hne : inner ≠ []) (h : tag.text d <+: inner ++ '<' :: behind) :
    tag.text d <+: inner := by
  obtain ⟨hlt, -⟩ := Delimiter.ne_of_isValid hd
  refine List.prefix_of_prefix_length_le h (List.prefix_append _ _) ?_
  by_contra hlen
  obtain ⟨more, hmore⟩ : inner ++ ['<'] <+: tag.text d := by
    have hinner : inner ++ ['<'] <+: inner ++ '<' :: behind := by simp
    exact List.prefix_of_prefix_length_le hinner h (by simp; omega)
  obtain ⟨c, inner, rfl⟩ := List.exists_cons_of_ne_nil hne
  have hmem : '<' ∈ (tag.text d).tail := by simp [← hmore]
  cases tag <;> simp [text, hlt.symm] at hmem

end Tag

namespace Piece

/-- What stands behind the next tag plays no part. -/
lemma TagFree.of_tag {s behind : List Char} {t : Tag} (h : TagFree d s (t.text d ++ behind))
    (behind' : List Char) : TagFree d s (t.text d ++ behind') := by
  intro inner hinner hne
  have hnone := h inner hinner hne
  rw [Tag.match?_eq_none_iff, ← List.append_assoc] at hnone ⊢
  intro tag hprefix
  have hlen : (tag.text d).length ≤ (inner ++ t.text d).length := by
    have := Tag.length_text_le d tag
    have := Tag.le_length_text d t
    have := List.length_pos_iff.2 hne
    rw [List.length_append]
    omega
  exact hnone tag ((List.prefix_of_prefix_length_le hprefix (List.prefix_append _ _) hlen).trans
    (List.prefix_append _ _))

/-- No tag begins inside the end of a text in which none does. -/
lemma TagFree.of_suffix {s s' behind : List Char} (h : TagFree d s behind) (hs : s' <:+ s) :
    TagFree d s' behind := fun inner hinner => h inner (hinner.trans hs)

/-- A literal may be cut short before an opening tag. -/
lemma TagFree.of_prefix (hd : Delimiter.isValid d = true) {s s' behind behind' : List Char}
    (h : TagFree d s behind) (hs : s' <+: s) : TagFree d s' ('<' :: behind') := by
  obtain ⟨dropped, rfl⟩ := hs
  intro inner hinner hne
  obtain ⟨front, rfl⟩ := hinner
  have hnone := h (inner ++ dropped) ⟨front, by simp⟩ (by simp [hne])
  rw [Tag.match?_eq_none_iff] at hnone ⊢
  intro tag hprefix
  refine hnone tag ((Tag.prefix_of_prefix_append_lt hd hne hprefix).trans ?_)
  simp

/-! ## Before slurping openers -/

/-- A literal, unless it is empty. -/
def kept (s : List Char) : List Piece := if s.isEmpty then [] else [.literal s]

/-- What is kept of a text is written as the text. -/
@[simp] lemma written_kept (s : List Char) : written d (kept s) = s := by
  unfold kept
  split <;> simp_all [text]

/-- Pieces are written one behind the other. -/
@[simp] lemma written_append (front behind : List Piece) :
    written d (front ++ behind) = written d front ++ written d behind :=
  List.flatMap_append

/-- Pieces without the spaces and tabs before slurping openers. -/
def slurpBefore : List Piece → List Piece
  | [] => []
  | .tag t :: rest => .tag t :: slurpBefore rest
  | .literal s :: rest =>
    kept (if rest.head? = some (.tag .openSlurp) then s.rdropWhile Text.isSpaceOrTab else s) ++
      slurpBefore rest

/-- Pieces without the spaces and tabs behind slurping closers.  `eating` tells whether such a
tag ends where the pieces begin. -/
def slurpBehind (eating : Bool) : List Piece → List Piece
  | [] => []
  | .tag .openSlurp :: .tag .close :: rest =>
    .tag .openSlurp :: .tag .close :: slurpBehind true rest
  | .tag t :: rest => .tag t :: slurpBehind (t = .closeSlurp) rest
  | .literal s :: rest =>
    kept (if eating then s.dropWhile Text.isSpaceOrTab else s) ++ slurpBehind false rest

end Piece

/-! ## The text, character by character -/

namespace Text

/-- Spaces and tabs are white space. -/
lemma isBlank_of_isSpaceOrTab {c : Char} (h : isSpaceOrTab c = true) : isBlank c = true := by
  simp only [isSpaceOrTab, Bool.or_eq_true, beq_iff_eq] at h
  rcases h with rfl | rfl <;> decide

/-- What a text starts with is a beginning of it. -/
lemma startsWith_iff {p s : List Char} : startsWith p s = true ↔ p <+: s := by
  simp only [startsWith, Option.isSome_iff_exists, dropPrefix?_eq_some_iff, List.IsPrefix,
    @eq_comm _ s]

end Text

/-- Tags hold neither spaces nor tabs. -/
lemma Tag.not_isSpaceOrTab (hd : Delimiter.isValid d = true) {t : Tag} {c : Char}
    (h : c ∈ t.text d) : Text.isSpaceOrTab c = false := by
  have hdelim : Text.isSpaceOrTab d = false := by
    by_contra hspace
    have := Text.isBlank_of_isSpaceOrTab (Bool.not_eq_false _ ▸ hspace)
    simp [Delimiter.not_isBlank hd] at this
  cases t <;> simp only [text, List.mem_cons, List.not_mem_nil, or_false] at h <;>
    rcases h with rfl | rfl | rfl <;> first | exact hdelim | decide

namespace Whitespace

/-- A character at the beginning is dropped together with all that follows it, or not at all. -/
lemma rdropWhile_cons (p : Char → Bool) (c : Char) (s : List Char) :
    (c :: s).rdropWhile p = if p c && s.all p then [] else c :: s.rdropWhile p := by
  have hall : (s.reverse.dropWhile p).isEmpty = s.all p := by
    rw [Bool.eq_iff_iff]
    simp
  rw [List.rdropWhile, List.reverse_cons, List.dropWhile_append, hall]
  by_cases hs : s.all p = true
  · by_cases hc : p c = true
    · simp [hs, hc]
    · have : s.rdropWhile p = [] := by simpa [List.rdropWhile_eq_nil_iff] using hs
      simp [hs, hc, this]
  · simp [hs, List.rdropWhile]

/-- Nothing is dropped before a text without spaces and tabs. -/
lemma slurpBefore_append {s : List Char} (h : ∀ c ∈ s, Text.isSpaceOrTab c = false)
    (tag behind : List Char) : slurpBefore tag (s ++ behind) = s ++ slurpBefore tag behind := by
  induction s with
  | nil => rfl
  | cons c s ih =>
    rw [List.cons_append, slurpBefore, h c List.mem_cons_self]
    simpa using ih fun c hc => h c (List.mem_cons_of_mem _ hc)

/-- Behind spaces and tabs inside a literal comes a slurping opener only if nothing else is left of
the literal. -/
lemma startsWith_dropWhile {s behind : List Char} {tag : Tag}
    (hfree : Piece.TagFree d s behind) (hfirst : ∀ c ∈ behind.head?, Text.isSpaceOrTab c = false) :
    Text.startsWith (tag.text d) ((s ++ behind).dropWhile Text.isSpaceOrTab) =
      (s.all Text.isSpaceOrTab && Text.startsWith (tag.text d) behind) := by
  rw [List.dropWhile_append]
  by_cases hall : s.all Text.isSpaceOrTab = true
  · have hbehind : behind.dropWhile Text.isSpaceOrTab = behind := by
      cases behind with
      | nil => rfl
      | cons c behind => simp [hfirst c rfl]
    have hnil : s.dropWhile Text.isSpaceOrTab = [] := by simpa using hall
    simp [hall, hnil, hbehind]
  · have hne : s.dropWhile Text.isSpaceOrTab ≠ [] := by simpa using hall
    have hnone := hfree _ (List.dropWhile_suffix _) hne
    have hstart : ¬ Text.startsWith (tag.text d) (s.dropWhile Text.isSpaceOrTab ++ behind) = true :=
      fun h => Tag.match?_eq_none_iff.1 hnone tag (Text.startsWith_iff.1 h)
    simp [hall, hne, hstart]

/-- The spaces and tabs at the end of a literal are dropped if a slurping opener follows.

**Proof sketch.** Induction on the literal.  A character goes exactly if it is a space or a tab, all
behind it are, and the opener follows. -/
lemma slurpBefore_literal {s behind : List Char} {tag : Tag}
    (hfree : Piece.TagFree d s behind) (hfirst : ∀ c ∈ behind.head?, Text.isSpaceOrTab c = false) :
    slurpBefore (tag.text d) (s ++ behind) =
      (if Text.startsWith (tag.text d) behind then s.rdropWhile Text.isSpaceOrTab else s) ++
        slurpBefore (tag.text d) behind := by
  induction s with
  | nil => simp
  | cons c s ih =>
    have hrest := hfree.of_suffix (List.suffix_cons c s)
    rw [List.cons_append, slurpBefore, startsWith_dropWhile hrest hfirst, ih hrest]
    cases hstart : Text.startsWith (tag.text d) behind with
    | false => simp
    | true =>
      rw [if_pos rfl, if_pos rfl, rdropWhile_cons, Bool.and_true]
      split
      · next hall =>
        have : s.rdropWhile Text.isSpaceOrTab = [] := by
          simpa [List.rdropWhile_eq_nil_iff] using (Bool.and_eq_true_iff.1 hall).2
        rw [this]
      · rfl

/-- Outside of a tag nothing is eaten that is no space or tab. -/
lemma slurpFrom_eating {tag s : List Char} (h : ∀ c ∈ s.head?, Text.isSpaceOrTab c = false)
    (eating : Bool) : slurpFrom tag eating 0 s = slurpFrom tag false 0 s := by
  cases s with
  | nil => rfl
  | cons c s => simp [slurpFrom, h c rfl]

/-- The spaces and tabs at the beginning of a literal are dropped behind a slurping closer. -/
lemma slurpFrom_literal {s behind : List Char} {tag : Tag} (hfree : Piece.TagFree d s behind)
    (hfirst : ∀ c ∈ behind.head?, Text.isSpaceOrTab c = false) (eating : Bool) :
    slurpFrom (tag.text d) eating 0 (s ++ behind) =
      (if eating then s.dropWhile Text.isSpaceOrTab else s) ++
        slurpFrom (tag.text d) false 0 behind := by
  induction s generalizing eating with
  | nil => simpa using slurpFrom_eating hfirst eating
  | cons c s ih =>
    have hrest := hfree.of_suffix (List.suffix_cons c s)
    have hstart : Text.startsWith (tag.text d) (c :: (s ++ behind)) = false := by
      rw [Bool.eq_false_iff, ne_eq, Text.startsWith_iff]
      exact Tag.match?_eq_none_iff.1 (hfree _ List.suffix_rfl (List.cons_ne_nil c s)) tag
    rw [List.cons_append, slurpFrom, hstart]
    cases eating with
    | false => simp [ih hrest]
    | true =>
      cases hc : Text.isSpaceOrTab c with
      | false => simp [ih hrest, hc]
      | true => simp [ih hrest, hc]

/-- A tag is passed.  It ends a slurping closer only if it is one, or if it is the end of `<%_` and
closes behind it. -/
lemma slurpFrom_tag (hd : Delimiter.isValid d = true) {t : Tag} {behind : List Char}
    (h : t = .openSlurp → ¬ Tag.close.text d <+: behind) (eating : Bool) :
    slurpFrom (Tag.closeSlurp.text d) eating 0 (t.text d ++ behind) =
      t.text d ++ slurpFrom (Tag.closeSlurp.text d) (t = .closeSlurp) 0 behind := by
  obtain ⟨-, -, -, hdelim, -⟩ := Delimiter.ne_of_isValid hd
  have hspace (c : Char) (hc : c ∈ t.text d) : Text.isSpaceOrTab c = false :=
    Tag.not_isSpaceOrTab hd hc
  cases t with
  | openSlurp =>
    have hclose : Text.dropPrefix? [d, '>'] behind = none := by
      rw [Option.eq_none_iff_forall_ne_some]
      exact fun r hr => h rfl ⟨r, (Text.dropPrefix?_eq_some_iff.1 hr).symm⟩
    simp only [Tag.text, List.mem_cons, List.not_mem_nil, or_false, forall_eq_or_imp, forall_eq]
      at hspace
    simp [Tag.text, slurpFrom, Text.startsWith, Text.dropPrefix?, hspace, hdelim.symm, hclose]
  | _ =>
    simp only [Tag.text, List.mem_cons, List.not_mem_nil, or_false, forall_eq_or_imp, forall_eq]
      at hspace
    simp [Tag.text, slurpFrom, Text.startsWith, Text.dropPrefix?, hspace, hdelim.symm]

/-- The text of a slurping closer ends where `<%_%>` ends. -/
lemma slurpFrom_pair (hd : Delimiter.isValid d = true) (behind : List Char) (eating : Bool) :
    slurpFrom (Tag.closeSlurp.text d) eating 0
        (Tag.openSlurp.text d ++ (Tag.close.text d ++ behind)) =
      Tag.openSlurp.text d ++
        (Tag.close.text d ++ slurpFrom (Tag.closeSlurp.text d) true 0 behind) := by
  obtain ⟨-, -, -, hdelim, -⟩ := Delimiter.ne_of_isValid hd
  have hspace : ∀ c ∈ Tag.openSlurp.text d, Text.isSpaceOrTab c = false := fun c =>
    Tag.not_isSpaceOrTab hd
  simp only [Tag.text, List.mem_cons, List.not_mem_nil, or_false, forall_eq_or_imp, forall_eq]
    at hspace
  simp [Tag.text, slurpFrom, Text.startsWith, Text.dropPrefix?, hspace, hdelim.symm]

end Whitespace

namespace Piece

/-! ## The pieces, one by one -/

/-- A tag does not begin with a space or a tab, and neither does what begins with a tag. -/
lemma NoLiteral.head (hd : Delimiter.isValid d = true) {pieces : List Piece}
    (h : NoLiteral pieces) : ∀ c ∈ (written d pieces).head?, Text.isSpaceOrTab c = false := by
  cases pieces with
  | nil => simp
  | cons piece rest =>
    cases piece with
    | literal s => exact absurd rfl (h s)
    | tag t =>
      intro c hc
      refine Tag.not_isSpaceOrTab hd (t := t) ?_
      have : (t.text d).head? = some c := by
        rwa [written_cons, text, List.head?_append_of_ne_nil _ (Tag.text_ne_nil d t)] at hc
      exact List.mem_of_head? this

/-- In a tiling, a text begins with a tag other than `<%` only if the tag is the first piece. -/
lemma Tiled.startsWith_iff (hd : Delimiter.isValid d = true) {pieces : List Piece}
    (h : Tiled d pieces) {t : Tag} (ht : t ≠ .openCode) :
    Text.startsWith (t.text d) (written d pieces) = true ↔ pieces.head? = some (.tag t) := by
  rw [Text.startsWith_iff]
  constructor
  · rintro ⟨behind, hbehind⟩
    have hmatch : Tag.match? d (written d pieces) = some (t, behind) :=
      (Tag.match?_eq_some_iff hd).2 ⟨hbehind.symm, fun e => absurd e ht⟩
    cases h with
    | nil => simp [Tag.text_ne_nil] at hbehind
    | tag hfirst _ =>
      rw [written_cons, text, hfirst] at hmatch
      simp_all
    | literal hne _ hfree _ =>
      rw [written_cons, text, hfree _ List.suffix_rfl hne] at hmatch
      cases hmatch
  · intro hhead
    obtain ⟨rest, rfl⟩ := List.head?_eq_some_iff.1 hhead
    exact List.prefix_append _ _

/-- Slurping before openers, on the pieces. -/
lemma Tiled.written_slurpBefore (hd : Delimiter.isValid d = true) {pieces : List Piece}
    (h : Tiled d pieces) :
    Whitespace.slurpBefore (Tag.openSlurp.text d) (written d pieces) =
      written d (slurpBefore pieces) := by
  induction h with
  | nil => rfl
  | tag _ _ ih =>
    rw [written_cons, text, Whitespace.slurpBefore_append fun c => Tag.not_isSpaceOrTab hd, ih]
    rfl
  | literal _ hno hfree hrest ih =>
    rw [written_cons, text, Whitespace.slurpBefore_literal hfree (hno.head hd), ih, slurpBefore,
      written_append, written_kept]
    simp only [hrest.startsWith_iff hd (t := .openSlurp) (by decide)]

/-- A tag in a tiling is the one that the text begins with there. -/
lemma Tiled.of_tag {t : Tag} {rest : List Piece} (h : Tiled d (.tag t :: rest)) :
    Tag.match? d (t.text d ++ written d rest) = some (t, written d rest) ∧ Tiled d rest := by
  cases h with
  | tag hmatch hrest => exact ⟨hmatch, hrest⟩

/-- Slurping behind closers, on the pieces.

**Proof sketch.** Induction along the pass on the pieces, with that on the characters beside it. -/
lemma Tiled.written_slurpBehind (hd : Delimiter.isValid d = true) {pieces : List Piece}
    (h : Tiled d pieces) (eating : Bool) :
    Whitespace.slurpFrom (Tag.closeSlurp.text d) eating 0 (written d pieces) =
      written d (slurpBehind eating pieces) := by
  fun_induction slurpBehind eating pieces with
  | case1 => rfl
  | case2 eating rest ih =>
    have hrest := h.of_tag.2.of_tag.2
    rw [written_cons, written_cons, text, text, Whitespace.slurpFrom_pair hd, ih hrest]
    rfl
  | case3 eating t rest hpair ih =>
    have hrest := h.of_tag.2
    rw [written_cons, text, Whitespace.slurpFrom_tag hd ?_, ih hrest]
    · rfl
    · rintro rfl hclose
      have := (hrest.startsWith_iff hd (t := .close) (by decide)).1 (Text.startsWith_iff.2 hclose)
      obtain ⟨behind, rfl⟩ := List.head?_eq_some_iff.1 this
      exact hpair behind rfl rfl
  | case4 eating s rest ih =>
    cases h with
    | literal _ hno hfree hrest =>
      rw [written_cons, text, Whitespace.slurpFrom_literal hfree (hno.head hd), ih hrest,
        written_append, written_kept]

/-! ## Slurped pieces are a tiling -/

/-- A tag stays the one that the text begins with when what follows it has the same beginning, or
begins with a tag that opens. -/
lemma match?_of_head (hd : Delimiter.isValid d = true) {t : Tag} {behind behind' : List Char}
    (h : Tag.match? d (t.text d ++ behind) = some (t, behind))
    (hhead : t = .openCode → behind'.head? = behind.head? ∨ behind'.head? = some '<') :
    Tag.match? d (t.text d ++ behind') = some (t, behind') := by
  refine (Tag.match?_eq_some_iff hd).2 ⟨rfl, fun ht c hc => ?_⟩
  obtain ⟨hlt, -⟩ := Delimiter.ne_of_isValid hd
  rcases hhead ht with hsame | hopen
  · exact ((Tag.match?_eq_some_iff hd).1 h).2 ht c (hsame ▸ hc)
  · obtain rfl : c = '<' := by simpa [hopen, eq_comm] using hc
    simp [Tag.modifiers, hlt.symm]

/-- A literal that is kept only if it is not empty. -/
lemma Tiled.kept_append {s : List Char} {rest : List Piece} (hno : NoLiteral rest)
    (hfree : TagFree d s (written d rest)) (hrest : Tiled d rest) :
    Tiled d (kept s ++ rest) := by
  unfold kept
  split
  · exact hrest
  · next hne => exact .literal (by simpa using hne) hno hfree hrest

/-- Slurping before openers keeps the first character, or uncovers an opener.

**Proof sketch.** Only a literal in front of an opener loses anything.  It is shortened at its end,
or gone, and then the opener comes first. -/
lemma Tiled.head_slurpBefore {pieces : List Piece} (h : Tiled d pieces) :
    (written d (slurpBefore pieces)).head? = (written d pieces).head? ∨
      (written d (slurpBefore pieces)).head? = some '<' := by
  cases h with
  | nil => exact .inl rfl
  | @tag t rest _ _ =>
    left
    simp [slurpBefore, text, List.head?_append_of_ne_nil _ (Tag.text_ne_nil d t)]
  | @literal s rest hne _ _ _ =>
    rw [slurpBefore, written_append, written_kept]
    split
    · next hnext =>
      obtain ⟨behind, rfl⟩ := List.head?_eq_some_iff.1 hnext
      by_cases hempty : s.rdropWhile Text.isSpaceOrTab = []
      · right
        simp [hempty, slurpBefore, text, Tag.text]
      · left
        obtain ⟨dropped, hs⟩ := List.rdropWhile_prefix Text.isSpaceOrTab s
        rw [written_cons, text, List.head?_append_of_ne_nil _ hempty,
          List.head?_append_of_ne_nil _ hne, ← List.head?_append_of_ne_nil _ hempty, hs]
    · left
      rw [written_cons, text, List.head?_append_of_ne_nil _ hne,
        List.head?_append_of_ne_nil _ hne]

/-- Slurping leaves the first piece in its place if it is a tag. -/
lemma NoLiteral.cases {pieces : List Piece} (h : NoLiteral pieces) :
    pieces = [] ∨ ∃ t rest, pieces = .tag t :: rest := by
  cases pieces with
  | nil => exact .inl rfl
  | cons piece rest =>
    cases piece with
    | literal s => exact absurd rfl (h s)
    | tag t => exact .inr ⟨t, rest, rfl⟩

/-- A tag is no literal. -/
lemma NoLiteral.tag (t : Tag) (rest : List Piece) : NoLiteral (.tag t :: rest) := fun s => by simp

/-- A tiling stays one when it is slurped before openers. -/
lemma Tiled.slurpBefore (hd : Delimiter.isValid d = true) {pieces : List Piece}
    (h : Tiled d pieces) : Tiled d (slurpBefore pieces) := by
  induction h with
  | nil => exact .nil
  | tag hmatch hrest ih =>
    exact .tag (match?_of_head hd hmatch fun _ => hrest.head_slurpBefore) ih
  | @literal s rest hne hno hfree hrest ih =>
    rw [Piece.slurpBefore]
    obtain rfl | ⟨t, behind, rfl⟩ := hno.cases
    · exact Tiled.kept_append hno hfree .nil
    · refine Tiled.kept_append (.tag t _) ?_ ih
      split
      · next hnext =>
        obtain rfl : t = .openSlurp := by simpa using hnext
        exact hfree.of_prefix hd (List.rdropWhile_prefix ..)
      · exact hfree.of_tag _

/-- Slurping behind closers leaves the first piece in its place if it is a tag. -/
lemma slurpBehind_tag (eating : Bool) (t : Tag) (rest : List Piece) :
    ∃ behind, slurpBehind eating (.tag t :: rest) = .tag t :: behind := by
  unfold slurpBehind
  split <;> simp_all

/-- Slurping behind closers keeps the first character where nothing is eaten. -/
lemma Tiled.head_slurpBehind {pieces : List Piece} (h : Tiled d pieces) :
    (written d (slurpBehind false pieces)).head? = (written d pieces).head? := by
  cases h with
  | nil => rfl
  | @tag t rest _ _ =>
    obtain ⟨behind, hbehind⟩ := slurpBehind_tag false t rest
    simp [hbehind, text, List.head?_append_of_ne_nil _ (Tag.text_ne_nil d t)]
  | literal hne _ _ _ =>
    simp [slurpBehind, text, List.head?_append_of_ne_nil _ hne]

/-- A tiling stays one when it is slurped behind closers.

**Proof sketch.** Induction along the pass.  A tag is matched by what is behind it alone, of which
only the first piece counts, and a literal that loses characters at its beginning still has no tag
in it. -/
lemma Tiled.slurpBehind (hd : Delimiter.isValid d = true) {pieces : List Piece}
    (h : Tiled d pieces) (eating : Bool) : Tiled d (slurpBehind eating pieces) := by
  fun_induction Piece.slurpBehind eating pieces with
  | case1 => exact .nil
  | case2 eating rest ih =>
    obtain ⟨hopen, hbehind⟩ := h.of_tag
    obtain ⟨hclose, hrest⟩ := hbehind.of_tag
    exact .tag (match?_of_head hd hopen (by simp))
      (.tag (match?_of_head hd hclose (by simp)) (ih hrest))
  | case3 eating t rest hpair ih =>
    obtain ⟨hmatch, hrest⟩ := h.of_tag
    refine .tag (match?_of_head hd hmatch ?_) (ih hrest)
    rintro rfl
    exact .inl hrest.head_slurpBehind
  | case4 eating s rest ih =>
    cases h with
    | literal _ hno hfree hrest =>
      have hsuffix : (if eating then s.dropWhile Text.isSpaceOrTab else s) <:+ s := by
        split
        · exact List.dropWhile_suffix _
        · exact List.suffix_rfl
      have hfree := hfree.of_suffix hsuffix
      obtain rfl | ⟨t, behind, rfl⟩ := hno.cases
      · exact Tiled.kept_append hno hfree .nil
      · have hrest := ih hrest
        obtain ⟨behind', hbehind'⟩ := slurpBehind_tag false t behind
        rw [hbehind'] at hrest ⊢
        exact Tiled.kept_append (.tag t _) (hfree.of_tag _) hrest

/-! ## The normal form of a text -/

end Piece

end Stencil
