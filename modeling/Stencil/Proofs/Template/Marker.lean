import Stencil.Proofs.Template.Directive
import Stencil.Proofs.Template.Slurping
import Stencil.Template.Compiled

/-!
# Reading markers back

A directive that names an asset leaves a marker with the path of the asset in the output, and two
readers look for it there.  The path is written as it is, so a path can spoil its own marker: this
module says which paths do not.

## Main definitions

* `Stencil.Markers.Plain` — a text with no tag and no bracket in it.
* `Stencil.Markers.Readable` — a path that its marker names.

## Main results

* `Stencil.Markers.read_back_iff` — both readers find a marker between plain texts, and taking it
  out leaves those texts, exactly when its path is readable.

## Design

White space and the delimiter end a path for the reader that looks for whole markers.  The other
reader cuts the text into segments, so the end of the path must not make another tag of the
delimiter behind it: `-` and `_` become part of the closing tag, and `<` opens a tag.
-/

set_option relaxedAutoImplicit false
set_option autoImplicit false

namespace Stencil.Markers

/-- **A text with no tag and no bracket in it.** -/
structure Plain (s : List Char) : Prop where
  /-- No opening bracket. -/
  lt_notMem : '<' ∉ s
  /-- No tag. -/
  not_infix : ∀ tag : Tag, ¬ tag.text markerDelimiter <:+: s

/-- **A path that its marker names.** -/
structure Readable (path : List Char) : Prop where
  /-- There is a path. -/
  ne_nil : path ≠ []
  /-- White space and the delimiter would end it. -/
  not_end : ∀ c ∈ path, Text.isBlank c = false ∧ c ≠ markerDelimiter
  /-- A modifier or a bracket at its end would make another tag of the one behind it. -/
  last : ∀ c ∈ path.getLast?, c ∉ ['<', '-', '_']

/-- What stands between the tags of a marker. -/
def content (kind : AssetKind) (path : List Char) : List Char :=
  ' ' :: kind.keyword.toList ++ ' ' :: path

/-- A directive that names an asset puts out the marker of its path. -/
theorem program_referTo (kind : AssetKind) (reference : String) (p : Pass) :
    (Template.referTo kind reference p).program =
      p.program ++ [.append (kind.marker (p.collector.describe true reference).path)] := by
  cases kind <;> rfl

/-! ## Looking for markers -/

/-- The character before a marker plays no part, and neither does what is skipped. -/
lemma scanFrom_eq_drop (before : Option Char) (skip : Nat) (s : List Char) :
    Markup.scanFrom marker? before skip s = Markup.scan marker? (s.drop skip) := by
  induction s generalizing before skip with
  | nil => simp [Markup.scan, Markup.scanFrom]
  | cons c s ih =>
    cases skip with
    | succ skip => exact ih _ skip
    | zero =>
      rw [List.drop_zero, Markup.scan, Markup.scanFrom, Markup.scanFrom]
      rfl

/-- There is no marker where there is no bracket. -/
lemma scan_append {s : List Char} (h : '<' ∉ s) (behind : List Char) :
    Markup.scan marker? (s ++ behind) = Markup.scan marker? behind := by
  induction s with
  | nil => rfl
  | cons c s ih =>
    rw [List.mem_cons, not_or] at h
    have hnone : marker? none (c :: (s ++ behind)) = none := by
      simp [marker?, Tag.text, markerDelimiter, Text.dropPrefix?, h.1]
    rw [List.cons_append, Markup.scan, Markup.scanFrom, hnone]
    simp only
    rw [scanFrom_eq_drop, List.drop_zero, ih h.2]

/-- Behind a marker the search goes on. -/
lemma scan_of_marker? {c : Char} {rest behind : List Char} {found : AssetKind × List Char}
    (h : marker? none (c :: rest) = some (found, behind)) (hbehind : behind <:+ rest) :
    Markup.scan marker? (c :: rest) = found :: Markup.scan marker? behind := by
  obtain ⟨front, rfl⟩ := hbehind
  rw [Markup.scan, Markup.scanFrom, h]
  simp only
  rw [scanFrom_eq_drop]
  simp

/-- What is captured was captured somewhere. -/
lemma exists_of_mem_scanFrom {α : Type} {pattern : Option Char → Markup.Pattern α} {x : α}
    {before : Option Char} {skip : Nat} {s : List Char}
    (h : x ∈ Markup.scanFrom pattern before skip s) :
    ∃ before s behind, pattern before s = some (x, behind) := by
  induction s generalizing before skip with
  | nil => simp [Markup.scanFrom] at h
  | cons c s ih =>
    cases skip with
    | succ skip => exact ih h
    | zero =>
      rw [Markup.scanFrom] at h
      split at h
      · next capture behind hpattern =>
        rcases List.mem_cons.1 h with rfl | hrest
        · exact ⟨_, _, _, hpattern⟩
        · exact ih hrest
      · exact ih h

/-- The path of a marker is not empty and holds neither white space nor the delimiter. -/
lemma path_of_marker? {before : Option Char} {s behind path : List Char} {kind : AssetKind}
    (h : marker? before s = some ((kind, path), behind)) :
    path ≠ [] ∧ ∀ c ∈ path, Text.isBlank c = false ∧ c ≠ markerDelimiter := by
  unfold marker? at h
  split at h
  · cases h
  · next inside _ =>
    obtain ⟨k, -, hk⟩ := List.exists_of_findSome?_eq_some h
    obtain ⟨rest, -, hrest⟩ := Option.bind_eq_some_iff.1 hk
    simp only at hrest
    split at hrest
    · cases hrest
    · next hne =>
      obtain ⟨_, -, hpath⟩ := Option.map_eq_some_iff.1 hrest
      cases hpath
      refine ⟨by simpa using hne, fun c hc => ?_⟩
      simpa using List.mem_takeWhile_imp hc

/-- A whole marker is found, whatever is behind it.

**Proof sketch.** The reader is followed through the marker: the opening tag, the modifier, the
keyword, white space, the path up to the closing tag.  The path ends there, since it has neither
white space nor the delimiter in it. -/
lemma marker?_content {path : List Char} (hne : path ≠ [])
    (hpath : ∀ c ∈ path, Text.isBlank c = false ∧ c ≠ markerDelimiter) (kind : AssetKind)
    (behind : List Char) :
    marker? none ('<' :: '%' :: (content kind path ++ '%' :: '>' :: behind)) =
      some ((kind, path), behind) := by
  have hblank : Text.isBlank ' ' = true := by decide
  have hletter : Text.isBlank 'r' = false := by decide
  have hdelim : Text.isBlank '%' = false := by decide
  have hstart : Text.trimStart (path ++ '%' :: '>' :: behind) = path ++ '%' :: '>' :: behind := by
    obtain ⟨c, rest, rfl⟩ := List.exists_cons_of_ne_nil hne
    simp [Text.trimStart, (hpath c List.mem_cons_self).1]
  have htake : (path ++ '%' :: '>' :: behind).takeWhile
      (fun c => !Text.isBlank c && c ≠ markerDelimiter) = path := by
    rw [List.takeWhile_append_of_pos (by simpa using hpath)]
    simp [markerDelimiter]
  have hdrop : (path ++ '%' :: '>' :: behind).dropWhile
      (fun c => !Text.isBlank c && c ≠ markerDelimiter) = '%' :: '>' :: behind := by
    rw [List.dropWhile_append_of_pos (by simpa using hpath)]
    simp [markerDelimiter]
  have hclose : afterClose? ('%' :: '>' :: behind) = some behind := by
    simp [afterClose?, Text.trimStart, hdelim, skipModifier, Tag.text, markerDelimiter,
      Text.dropPrefix?]
  have hkeyword (k : AssetKind) : Text.dropPrefix? k.keyword.toList
      (kind.keyword.toList ++ ' ' :: (path ++ '%' :: '>' :: behind)) =
        if k = kind then some (' ' :: (path ++ '%' :: '>' :: behind)) else none := by
    cases k <;> cases kind <;> simp [AssetKind.keyword, Text.dropPrefix?]
  have hinside : Text.trimStart (skipModifier (content kind path ++ '%' :: '>' :: behind)) =
      kind.keyword.toList ++ ' ' :: (path ++ '%' :: '>' :: behind) := by
    cases kind <;>
      simp [content, skipModifier, Text.trimStart, hblank, hletter, AssetKind.keyword]
  have hbehind : Directive.behindBlank? (' ' :: (path ++ '%' :: '>' :: behind)) =
      some (path ++ '%' :: '>' :: behind) := by
    have hspace : Text.trimStart (' ' :: (path ++ '%' :: '>' :: behind)) =
        path ++ '%' :: '>' :: behind := by
      rw [Text.trimStart, List.dropWhile_cons, if_pos hblank]
      exact hstart
    simp [Directive.behindBlank?_eq, hspace, hblank]
  have hopen : Text.dropPrefix? (Tag.openCode.text markerDelimiter)
      ('<' :: '%' :: (content kind path ++ '%' :: '>' :: behind)) =
        some (content kind path ++ '%' :: '>' :: behind) :=
    Text.dropPrefix?_eq_some_iff.2 rfl
  rw [marker?, hopen]
  simp only [hinside, hkeyword, kinds, List.findSome?_cons, List.findSome?_nil]
  cases kind <;>
    simp only [if_true, reduceCtorEq, if_false, Option.bind_some, Option.bind_none, hbehind, htake,
      hdrop, hclose, List.isEmpty_eq_false_iff.2 hne, Bool.false_eq_true, Option.map_some]

/-! ## What is recorded -/

/-- The recorded paths of a kind. -/
def paths (m : Markers) : AssetKind → List String
  | .script => m.scripts
  | .style => m.styles

/-- A path that is recorded comes last among those of its kind. -/
lemma paths_record (m : Markers) (k kind : AssetKind) (path : List Char) :
    (m.record k path).paths kind =
      m.paths kind ++ if k = kind then [String.ofList path] else [] := by
  cases k <;> cases kind <;> simp [record, paths]

/-- Paths that are recorded one after the other keep their order. -/
lemma paths_foldl_record (m : Markers) (captures : List (AssetKind × List Char))
    (kind : AssetKind) :
    (captures.foldl (fun m (kind, path) => m.record kind path) m).paths kind =
      m.paths kind ++ (captures.filter (·.1 = kind)).map fun x => String.ofList x.2 := by
  induction captures generalizing m with
  | nil => simp
  | cons capture rest ih =>
    rw [List.foldl_cons, ih, paths_record, List.filter_cons]
    by_cases h : capture.1 = kind <;> simp [h]

/-- One recorded marker tells its path. -/
lemma record_inj {kind : AssetKind} {path path' : List Char} :
    record {} kind path = record {} kind path' ↔ path = path' := by
  refine ⟨fun h => ?_, fun h => h ▸ rfl⟩
  have := congrArg (paths · kind) h
  exact String.ofList_injective (by simpa [paths_record] using this)

/-- One recorded marker is not none. -/
lemma record_ne_empty (kind : AssetKind) (path : List Char) : record {} kind path ≠ {} := by
  intro h
  have := congrArg (paths · kind) h
  cases kind <;> simp [paths_record] at this

/-- A marker that is found has a path that can be found: not empty, without white space and
without the delimiter. -/
lemma path_of_scan {text : String} {kind : AssetKind} {path : List Char}
    (h : scan text = record {} kind path) :
    path ≠ [] ∧ ∀ c ∈ path, Text.isBlank c = false ∧ c ≠ markerDelimiter := by
  have hpaths := congrArg (paths · kind) h
  simp only [scan, paths_foldl_record, paths_record, if_true] at hpaths
  have hmem : String.ofList path ∈
      (({} : Markers).paths kind ++ ((Markup.scan marker? text.toList).filter (·.1 = kind)).map
        fun x => String.ofList x.2) := by
    rw [hpaths]
    simp
  have hnone : ({} : Markers).paths kind = [] := by cases kind <;> rfl
  rw [hnone, List.nil_append, List.mem_map] at hmem
  obtain ⟨⟨k, p⟩, hp, heq⟩ := hmem
  obtain rfl : p = path := String.ofList_injective heq
  obtain ⟨_, _, _, hmarker⟩ := exists_of_mem_scanFrom (List.mem_filter.1 hp).1
  exact path_of_marker? hmarker

/-! ## Cutting a text with a marker in it -/

/-- The delimiter of markers is a valid one. -/
lemma delimiter_isValid : Delimiter.isValid markerDelimiter = true := by decide

/-- No tag begins inside a plain text before an opening bracket. -/
lemma Plain.tagFree_lt {s : List Char} (h : Plain s) (behind : List Char) :
    Piece.TagFree markerDelimiter s ('<' :: behind) := by
  intro inner hinner hne
  rw [Tag.match?_eq_none_iff]
  intro tag hprefix
  have hinside := Tag.prefix_of_prefix_append_lt delimiter_isValid hne hprefix
  exact h.not_infix tag (hinside.isInfix.trans hinner.isInfix)

/-- No tag begins inside a plain text at the end. -/
lemma Plain.tagFree_nil {s : List Char} (h : Plain s) : Piece.TagFree markerDelimiter s [] := by
  intro inner hinner _
  rw [Tag.match?_eq_none_iff, List.append_nil]
  exact fun tag htag => h.not_infix tag (htag.isInfix.trans hinner.isInfix)

/-- A plain text at the end tiles. -/
lemma Plain.tiled {s : List Char} (h : Plain s) :
    Piece.Tiled markerDelimiter (Piece.kept s) := by
  have htiled : Piece.Tiled markerDelimiter (Piece.kept s ++ []) :=
    .kept_append (by simp [Piece.NoLiteral]) h.tagFree_nil .nil
  rwa [List.append_nil] at htiled

/-- The content of a marker is free of the delimiter if the path is. -/
lemma markerDelimiter_notMem_content {kind : AssetKind} {path : List Char}
    (h : markerDelimiter ∉ path) : markerDelimiter ∉ content kind path := by
  cases kind <;> simpa [content, AssetKind.keyword, markerDelimiter] using h

/-- The content of a marker ends as its path does. -/
lemma getLast?_content (kind : AssetKind) (path : List Char) :
    (content kind path).getLast? = path.getLast?.or (some ' ') := by
  rw [content, List.getLast?_append, List.getLast?_cons]
  cases path.getLast? <;> rfl

/-- A text with a marker's beginning in it is cut at that, if no tag begins inside the content
behind it. -/
lemma split_content {before : List Char} (hbefore : Plain before) {kind : AssetKind}
    {path : List Char} {pieces : List Piece}
    (hpath : Piece.TagFree markerDelimiter (content kind path)
      (Piece.written markerDelimiter pieces))
    (hpieces : Piece.Tiled markerDelimiter pieces) (hno : Piece.NoLiteral pieces) :
    Piece.split markerDelimiter (before ++ (Tag.openCode.text markerDelimiter ++
        (content kind path ++ Piece.written markerDelimiter pieces))) =
      Piece.kept before ++ .tag .openCode :: .literal (content kind path) :: pieces := by
  rw [Piece.split_eq_iff]
  refine ⟨by simp [Piece.text], .kept_append (.tag _ _) (hbefore.tagFree_lt _) (.tag ?_ ?_)⟩
  · refine (Tag.match?_eq_some_iff delimiter_isValid).2 ⟨rfl, fun _ c hc => ?_⟩
    obtain rfl : c = ' ' := by simpa [Piece.text, content, eq_comm] using hc
    decide
  · exact .literal (by simp [content]) hno hpath hpieces

/-! ## Taking a marker out -/

variable {text out : String} {found : Markers}

/-- Text goes through. -/
lemma stripFrom_kept (text out : String) (found : Markers) (s : List Char) (offset : Nat)
    (rest : List Piece) :
    ∃ offset', stripFrom text out found
        (Segment.locate markerDelimiter offset (Piece.kept s ++ rest)) =
      stripFrom text (out ++ String.ofList s) found
        (Segment.locate markerDelimiter offset' rest) := by
  unfold Piece.kept
  split
  · next h =>
    obtain rfl := List.isEmpty_iff.1 h
    exact ⟨offset, by simp⟩
  · exact ⟨_, by simp [Segment.locate, stripFrom, Piece.text]; rfl⟩

/-- Text at the end goes through. -/
lemma stripFrom_kept_nil (s : List Char) (offset : Nat) :
    stripFrom text out found (Segment.locate markerDelimiter offset (Piece.kept s)) =
      .ok (out ++ String.ofList s, found) := by
  obtain ⟨offset', h⟩ := stripFrom_kept text out found s offset []
  rw [List.append_nil] at h
  rw [h]
  rfl

/-- What the content of a marker names.

**Proof sketch.** No keyword of another kind stands there, and the path is all that is left behind
the blank, since there is no white space in it. -/
lemma ofContent?_content {path : List Char} (hpath : ∀ c ∈ path, Text.isBlank c = false)
    (kind : AssetKind) :
    ofContent? (content kind path) = if path.isEmpty then none else some (kind, path) := by
  have hblank : Text.isBlank ' ' = true := by decide
  have hletter : Text.isBlank 'r' = false := by decide
  have hkeyword (k : AssetKind) : Directive.afterKeyword? k.keyword (content kind path) =
      if k = kind then some (' ' :: path) else none := by
    cases k <;> cases kind <;>
      simp [Directive.afterKeyword?, content, AssetKind.keyword, Text.trimStart, hblank, hletter,
        Text.dropPrefix?]
  have htarget : Directive.target? (' ' :: path) =
      if path.isEmpty then none else some (path, []) := by
    have htrim : Text.trimStart (' ' :: path) = path := by
      rw [Text.trimStart, List.dropWhile_cons, if_pos hblank]
      cases path with
      | nil => rfl
      | cons c path => simp [hpath c List.mem_cons_self]
    have hrun : path.takeWhile (fun c => !Text.isBlank c) = path :=
      List.takeWhile_eq_self_iff.2 (by simpa using hpath)
    have hrest : path.dropWhile (fun c => !Text.isBlank c) = [] :=
      List.dropWhile_eq_nil_iff.2 (by simpa using hpath)
    simp [Directive.target?, Directive.behindBlank?_eq, htrim, hrun, hrest, hblank]
  unfold ofContent? kinds
  cases kind <;> cases hempty : path.isEmpty <;> simp [hkeyword, htarget, hempty]

/-- A marker with its closing tag is taken out if it names a path, and stays if it names
none.

**Proof sketch.** The cases of the path.  With a path, the three segments are passed at once;
without one, the marker is kept, tag by tag. -/
lemma stripFrom_marker (text out : String) (found : Markers) (kind : AssetKind)
    {path : List Char} {tag : Tag} (htag : tag.isCloser = true)
    (hpath : ∀ c ∈ path, Text.isBlank c = false) (offset : Nat) (rest : List Piece) :
    ∃ offset' out', stripFrom text out found (Segment.locate markerDelimiter offset
        (.tag .openCode :: .literal (content kind path) :: .tag tag :: rest)) =
      stripFrom text out' (if path.isEmpty then found else found.record kind path)
        (Segment.locate markerDelimiter offset' rest) ∧ (path ≠ [] → out' = out) := by
  have hopener : tag.isOpener = false := by cases tag <;> simp_all [Tag.isCloser, Tag.isOpener]
  simp only [Segment.locate]
  rw [stripFrom]
  simp only [Piece.text, String.toList_ofList, ofContent?_content hpath, Option.any_some, htag,
    Tag.isOpener, Tag.acceptsDirective, if_true]
  cases path with
  | cons c path => exact ⟨_, _, rfl, fun _ => rfl⟩
  | nil =>
    simp only [List.isEmpty_nil, if_true]
    rw [stripFrom]
    simp only
    rw [stripFrom]
    simp only [hopener, Bool.false_eq_true, if_false]
    exact ⟨_, _, rfl, fun h => absurd rfl h⟩

/-- The text of a marker with what is behind it, once cut.

**Proof sketch.** The cut of the text is the text in front, the opening tag, the content, the
closing tag and the text behind.  Stripping is followed over these, one after the other. -/
lemma strip_of_closer (kind : AssetKind) {before behind : List Char} (hbefore : Plain before)
    (hbehind : Plain behind) {path : List Char} (hpath : ∀ c ∈ path, Text.isBlank c = false)
    {tag : Tag} (htag : tag.isCloser = true)
    (hfree : Piece.TagFree markerDelimiter (content kind path)
      (tag.text markerDelimiter ++ behind)) :
    ∃ out, strip markerDelimiter (String.ofList (before ++ (Tag.openCode.text markerDelimiter ++
        (content kind path ++ (tag.text markerDelimiter ++ behind))))) =
      .ok (out, if path.isEmpty then {} else record {} kind path) ∧
      (path ≠ [] → out = String.ofList (before ++ behind)) := by
  have hwritten : Piece.written markerDelimiter (.tag tag :: Piece.kept behind) =
      tag.text markerDelimiter ++ behind := by
    simp [Piece.text]
  have htiled : Piece.Tiled markerDelimiter (.tag tag :: Piece.kept behind) := by
    refine .tag ((Tag.match?_eq_some_iff delimiter_isValid).2 ⟨rfl, ?_⟩) hbehind.tiled
    rintro rfl
    cases htag
  have hsplit := split_content hbefore (hwritten ▸ hfree) htiled (.tag _ _)
  rw [hwritten] at hsplit
  rw [strip, Segment.splitChecked, if_pos delimiter_isValid, Segment.split, String.toList_ofList,
    hsplit]
  generalize String.ofList (before ++ (Tag.openCode.text markerDelimiter ++
    (content kind path ++ (tag.text markerDelimiter ++ behind)))) = text
  obtain ⟨offset, h₁⟩ := stripFrom_kept text "" {} before 0
    (.tag .openCode :: .literal (content kind path) :: .tag tag :: Piece.kept behind)
  obtain ⟨offset', out, h₂, hout⟩ := stripFrom_marker text ("" ++ String.ofList before) {} kind htag
    hpath offset (Piece.kept behind)
  refine ⟨out ++ String.ofList behind, ?_, fun hne => ?_⟩
  · show stripFrom text "" {} _ = _
    rw [h₁, h₂, stripFrom_kept_nil]
  · rw [hout hne]
    simp

/-- A marker whose path ends in an opening bracket opens another tag, which nothing closes.

**Proof sketch.** The cut of the text is known: the marker, with the bracket at the end of its path
now in the second opening tag.  The first tag is then followed by a content and by a tag that does
not close it, at which stripping stops. -/
lemma strip_of_lt (kind : AssetKind) {before behind : List Char} (hbefore : Plain before)
    (hbehind : Plain behind) {path : List Char} (hpath : markerDelimiter ∉ path) :
    ∃ e, strip markerDelimiter (String.ofList (before ++ (Tag.openCode.text markerDelimiter ++
        (content kind path ++ (Tag.openCode.text markerDelimiter ++ '>' :: behind))))) =
      .error e := by
  have hfree : Piece.TagFree markerDelimiter ('>' :: behind) [] := by
    intro inner hinner hne
    rcases List.suffix_cons_iff.1 hinner with rfl | hinner
    · rw [Tag.match?_eq_none_iff]
      intro tag
      cases tag <;> simp [Tag.text, markerDelimiter]
    · exact hbehind.tagFree_nil inner hinner hne
  have hwritten : Piece.written markerDelimiter [.tag .openCode, .literal ('>' :: behind)] =
      Tag.openCode.text markerDelimiter ++ '>' :: behind := by
    simp [Piece.text]
  have hcontent : Piece.TagFree markerDelimiter (content kind path)
      (Tag.openCode.text markerDelimiter ++ '>' :: behind) :=
    .of_notMem (markerDelimiter_notMem_content hpath) (by simp [Tag.text, markerDelimiter])
  have htiled : Piece.Tiled markerDelimiter [.tag .openCode, .literal ('>' :: behind)] := by
    refine .tag ((Tag.match?_eq_some_iff delimiter_isValid).2 ⟨rfl, fun _ c hc => ?_⟩)
      (.literal (by simp) (by simp [Piece.NoLiteral]) hfree .nil)
    obtain rfl : c = '>' := by simpa [Piece.text, eq_comm] using hc
    decide
  have hsplit := split_content hbefore (hwritten ▸ hcontent) htiled (.tag _ _)
  rw [hwritten] at hsplit
  rw [strip, Segment.splitChecked, if_pos delimiter_isValid, Segment.split, String.toList_ofList,
    hsplit]
  generalize String.ofList (before ++ (Tag.openCode.text markerDelimiter ++
    (content kind path ++ (Tag.openCode.text markerDelimiter ++ '>' :: behind)))) = text
  obtain ⟨offset, h⟩ := stripFrom_kept text "" {} before 0
    [.tag .openCode, .literal (content kind path), .tag .openCode, .literal ('>' :: behind)]
  have hopen : ∃ e, stripFrom text ("" ++ String.ofList before) {}
      (Segment.locate markerDelimiter offset [.tag .openCode, .literal (content kind path),
        .tag .openCode, .literal ('>' :: behind)]) = .error e := by
    simp only [Segment.locate]
    rw [stripFrom]
    exact ⟨_, rfl⟩
  exact hopen.imp fun e he => h.trans he

/-! ## Both readers -/

/-- A text with a marker in it, character by character. -/
lemma toList_marked (kind : AssetKind) (path : Path) (before behind : String) :
    before ++ kind.marker path ++ behind = String.ofList (before.toList ++
      (Tag.openCode.text markerDelimiter ++ (content kind path.text.toList ++
        (Tag.close.text markerDelimiter ++ behind.toList)))) := by
  apply String.toList_inj.1
  simp [AssetKind.marker, content]

/-- A readable path is found. -/
lemma Readable.scan_eq {kind : AssetKind} {path : Path} (h : Readable path.text.toList)
    {before behind : String} (hbefore : Plain before.toList) (hbehind : Plain behind.toList) :
    scan (before ++ kind.marker path ++ behind) = record {} kind path.text.toList := by
  have hmarker := marker?_content h.ne_nil h.not_end kind behind.toList
  have hfound : Markup.scan marker? ('<' :: '%' ::
      (content kind path.text.toList ++ '%' :: '>' :: behind.toList)) =
        [(kind, path.text.toList)] := by
    rw [scan_of_marker? hmarker ⟨'%' :: content kind path.text.toList ++ ['%', '>'], by simp⟩,
      ← List.append_nil behind.toList, scan_append hbehind.lt_notMem]
    rfl
  have hcaptures : Markup.scan marker? (Tag.openCode.text markerDelimiter ++
      (content kind path.text.toList ++ (Tag.close.text markerDelimiter ++ behind.toList))) =
        [(kind, path.text.toList)] := hfound
  rw [toList_marked, scan, String.toList_ofList, scan_append hbefore.lt_notMem, hcaptures]
  rfl

/-- A path that ends in a modifier loses it to the closing tag.

**Proof sketch.** The modifier and the closing tag are another closing tag, so this is a marker
whose path is shorter (`strip_of_closer`). -/
lemma strip_of_modifier {kind : AssetKind} {path : List Char} {c : Char} {tag : Tag}
    (htag : tag = .closeTrim ∧ c = '-' ∨ tag = .closeSlurp ∧ c = '_') {before behind : List Char}
    (hbefore : Plain before) (hbehind : Plain behind)
    (hpath : ∀ c ∈ path, Text.isBlank c = false ∧ c ≠ markerDelimiter) (result : String) :
    strip markerDelimiter (String.ofList (before ++ (Tag.openCode.text markerDelimiter ++
        (content kind (path ++ [c]) ++ (Tag.close.text markerDelimiter ++ behind))))) ≠
      .ok (result, record {} kind (path ++ [c])) := by
  have htext : content kind (path ++ [c]) ++ (Tag.close.text markerDelimiter ++ behind) =
      content kind path ++ (tag.text markerDelimiter ++ behind) := by
    rcases htag with ⟨rfl, rfl⟩ | ⟨rfl, rfl⟩ <;> simp [content, Tag.text]
  have hcloser : tag.isCloser = true := by
    rcases htag with ⟨rfl, -⟩ | ⟨rfl, -⟩ <;> rfl
  have hfree : Piece.TagFree markerDelimiter (content kind path)
      (tag.text markerDelimiter ++ behind) := by
    refine .of_notMem (markerDelimiter_notMem_content fun h => (hpath _ h).2 rfl) fun hhead => ?_
    rcases htag with ⟨rfl, -⟩ | ⟨rfl, -⟩ <;> simp [Tag.text, markerDelimiter] at hhead
  obtain ⟨out, hout, -⟩ :=
    strip_of_closer kind hbefore hbehind (fun c hc => (hpath c hc).1) hcloser hfree
  rw [htext, hout]
  intro heq
  have hfound := congrArg Prod.snd (Except.ok.inj heq)
  simp only at hfound
  split at hfound
  · exact record_ne_empty _ _ hfound.symm
  · simpa using record_inj.1 hfound

/-- Both readers read a marker back between plain texts exactly when its path is readable.

**Proof sketch.** The reader that looks for whole markers captures no white space and no delimiter,
so without those the path is captured whole.  For the other reader the marker's content is one
literal unless a tag begins at its last character: then the closing tag is a longer one and the path
has lost that character, or there is no closing tag at all. -/
theorem marker_read_back_iff (kind : AssetKind) (path : Path) {before behind : String}
    (hbefore : Plain before.toList) (hbehind : Plain behind.toList) :
    (scan (before ++ kind.marker path ++ behind) = record {} kind path.text.toList ∧
      strip markerDelimiter (before ++ kind.marker path ++ behind) =
        .ok (before ++ behind, record {} kind path.text.toList)) ↔
    Readable path.text.toList := by
  constructor
  · rintro ⟨hscan, hstrip⟩
    obtain ⟨hne, hpath⟩ := path_of_scan hscan
    refine ⟨hne, hpath, fun c hc hmem => ?_⟩
    obtain ⟨front, hfront⟩ := List.getLast?_eq_some_iff.1 hc
    have hplain : ∀ c ∈ front, Text.isBlank c = false ∧ c ≠ markerDelimiter := fun c hc =>
      hpath c (hfront ▸ List.mem_append_left _ hc)
    rw [toList_marked, hfront] at hstrip
    simp only [List.mem_cons, List.not_mem_nil, or_false] at hmem
    rcases hmem with rfl | rfl | rfl
    · have hfresh : markerDelimiter ∉ front := fun h => (hplain _ h).2 rfl
      obtain ⟨e, he⟩ := strip_of_lt kind hbefore hbehind hfresh
      have htext : content kind (front ++ ['<']) ++ (Tag.close.text markerDelimiter ++
          behind.toList) = content kind front ++ (Tag.openCode.text markerDelimiter ++
            '>' :: behind.toList) := by
        simp [content, Tag.text]
      rw [htext, he] at hstrip
      cases hstrip
    · exact strip_of_modifier (.inl ⟨rfl, rfl⟩) hbefore hbehind hplain _ hstrip
    · exact strip_of_modifier (.inr ⟨rfl, rfl⟩) hbefore hbehind hplain _ hstrip
  · intro h
    refine ⟨h.scan_eq hbefore hbehind, ?_⟩
    have hfree : Piece.TagFree markerDelimiter (content kind path.text.toList)
        (Tag.close.text markerDelimiter ++ behind.toList) := by
      refine .of_notMem (markerDelimiter_notMem_content fun hmem => (h.not_end _ hmem).2 rfl) ?_
      intro _ c hc
      rw [getLast?_content] at hc
      cases hlast : path.text.toList.getLast? with
      | none => exact absurd (List.getLast?_eq_none_iff.1 hlast) h.ne_nil
      | some c' => exact h.last c (by simpa [hlast] using hc)
    obtain ⟨out, hout, htext⟩ := strip_of_closer kind hbefore hbehind
      (fun c hc => (h.not_end c hc).1) rfl hfree
    rw [toList_marked, hout, htext h.ne_nil]
    simp [h.ne_nil]

/-- **Both readers read back what a directive that names an asset puts out,** between plain texts,
and taking it out leaves those texts, exactly when the path that its reference leads to is readable.
What the directive puts out is a marker, whatever the component and the path of the template
are. -/
theorem read_back_iff (kind : AssetKind) (reference : String) (p : Pass) {before behind : String}
    (hbefore : Plain before.toList) (hbehind : Plain behind.toList) :
    ∃ (path : Path) (marker : String), path = (p.collector.describe true reference).path ∧
      (Template.referTo kind reference p).program = p.program ++ [.append marker] ∧
      ((scan (before ++ marker ++ behind) = record {} kind path.text.toList ∧
          strip markerDelimiter (before ++ marker ++ behind) =
            .ok (before ++ behind, record {} kind path.text.toList)) ↔
        Readable path.text.toList) :=
  ⟨_, _, rfl, program_referTo kind reference p, marker_read_back_iff kind _ hbefore hbehind⟩

/-- The script of a site, between two words. -/
theorem read_back_iff_script :
    let p : Pass := { collector := { sourcePath := some ⟨"/nav/index.ejs"⟩ } }
    Plain "a ".toList ∧ Plain " b".toList ∧ ∃ marker : String,
      (Template.referTo .script "nav.js" p).program = [.append marker] ∧
      scan ("a " ++ marker ++ " b") = ⟨["/nav/nav.js"], []⟩ ∧
      strip markerDelimiter ("a " ++ marker ++ " b") =
        .ok ("a  b", ⟨["/nav/nav.js"], []⟩) := by
  intro p
  have hbefore : Plain "a ".toList := ⟨by decide, fun tag => by cases tag <;> decide⟩
  have hbehind : Plain " b".toList := ⟨by decide, fun tag => by cases tag <;> decide⟩
  have hpath : Readable "/nav/nav.js".toList := by
    have hall : "/nav/nav.js".toList.all
        (fun c => !Text.isBlank c && decide (c ≠ markerDelimiter)) = true := by decide
    refine ⟨by decide, fun c hc => by simpa using List.all_eq_true.1 hall c hc, fun c hc => ?_⟩
    obtain rfl : 's' = c := Option.some.inj hc
    decide
  obtain ⟨path, marker, hleads, hmarker, hback⟩ :=
    read_back_iff .script "nav.js" p hbefore hbehind
  obtain rfl : path = ⟨"/nav/nav.js"⟩ := hleads.trans (by decide +kernel)
  obtain ⟨hscan, hstrip⟩ := hback.2 hpath
  exact ⟨hbefore, hbehind, marker, hmarker, hscan, hstrip⟩

/-- **A path with an encoded space in it** is lost to the reader that looks for whole markers, while
the other takes the marker out. -/
theorem readers_differ_encoded :
    scan (AssetKind.script.marker ⟨"a%20b.js"⟩) = {} ∧
      strip markerDelimiter (AssetKind.script.marker ⟨"a%20b.js"⟩) =
        .ok ("", ⟨["a%20b.js"], []⟩) := by
  constructor <;> decide +kernel

end Stencil.Markers
