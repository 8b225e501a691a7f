import Stencil.Artifact
import Stencil.Proofs.Template.Marker
import Stencil.Proofs.Template.Segmentation
import Stencil.Proofs.Template.Trimming

/-!
# Taking markers out of a text

Markers are taken out of a text segment by segment, and a text with a malformed tag is refused.
Compiling refuses the same texts, and nothing but markers is taken out.

## Main definitions

* `Stencil.Markers.markerAt?` — the marker that segments begin with.
* `Stencil.Markers.kept`, `Stencil.Markers.captures` — the segments that belong to no marker, and
  the assets that the markers among segments name.
* `Stencil.Markers.unclosed?` — the first opening tag that is not closed.
* `Stencil.Markers.outcome` — what taking markers out comes to.

## Main results

* `Stencil.Markers.stripFrom_eq_outcome` — what the reader that jumps over markers comes to.
* `Stencil.Markers.strip_agrees` — both readers refuse the same texts at the same tag, and
  otherwise the segments of markers are left out, and no others.

## Design

Whether a segment belongs to a marker is said by its place, for all segments at once, and not by a
reader that has passed over some of them.  So it is a result that a reader may jump: the content of
a marker is no tag and what closes it opens nothing, and therefore markers do not overlap.
-/

set_option relaxedAutoImplicit false
set_option autoImplicit false

namespace Stencil

/-! ## Occurrences -/

/-- A part of a text occurs in it. -/
lemma Text.occursIn_of_infix {p s : List Char} (h : p <:+: s) : occursIn p s = true := by
  induction s with
  | nil => simp_all [occursIn, splitFirst?]
  | cons c s ih =>
    rw [occursIn, splitFirst?]
    split
    · rfl
    next hprefix =>
      rcases List.infix_cons_iff.1 h with ⟨rest, hrest⟩ | hs
      · rw [dropPrefix?_eq_some_iff.2 hrest.symm] at hprefix
        cases hprefix
      · simpa [occursIn] using ih hs

/-! ## Markers among segments -/

namespace Markers

/-- **The marker that segments begin with:** a tag that opens a code region or an unescaped
expression, a content that names an asset, and a tag that closes. -/
def markerAt? : List Segment → Option (AssetKind × List Char)
  | opener :: content :: closer :: _ =>
    if (opener.tag = some .openCode ∨ opener.tag = some .openRaw) ∧ closer.tag.any Tag.isCloser then
      ofContent? content.text.toList
    else none
  | _ => none

/-- Whether a segment belongs to a marker, which begins with it or at most two segments before
it. -/
def inMarker (segments : List Segment) (i : Nat) : Bool :=
  (List.range (i + 1)).any fun j => decide (i < j + 3) && (markerAt? (segments.drop j)).isSome

/-- The segments at the places that are not left out. -/
def outside (leftOut : Nat → Bool) (segments : List Segment) : List Segment :=
  (segments.zipIdx.filter fun (_, i) => !leftOut i).map Prod.fst

/-- **The segments that belong to no marker.** -/
def kept (segments : List Segment) : List Segment := outside (inMarker segments) segments

/-- **The assets that the markers among segments name,** in their order. -/
def captures (segments : List Segment) : List (AssetKind × List Char) :=
  (List.range segments.length).filterMap fun j => markerAt? (segments.drop j)

/-! ## One segment after the other -/

/-- The first segment belongs to a marker if one begins with it. -/
lemma inMarker_zero (s : Segment) (rest : List Segment) :
    inMarker (s :: rest) 0 = (markerAt? (s :: rest)).isSome := by
  simp [inMarker]

/-- A later segment belongs to one that begins with the first segment, or to one behind it. -/
lemma inMarker_succ (s : Segment) (rest : List Segment) (i : Nat) :
    inMarker (s :: rest) (i + 1) =
      (decide (i < 2) && (markerAt? (s :: rest)).isSome || inMarker rest i) := by
  have hplace (j : Nat) : decide (i + 1 < j + 1 + 3) = decide (i < j + 3) := by
    rw [decide_eq_decide]
    omega
  have hfirst : decide (i + 1 < 0 + 3) = decide (i < 2) := by
    rw [decide_eq_decide]
    omega
  rw [inMarker, List.range_succ_eq_map, List.any_cons, List.any_map, hfirst, inMarker]
  simp only [Function.comp_def, Nat.succ_eq_add_one, hplace, List.drop_succ_cons, List.drop_zero]

/-- The first segment is left out or stays, and the places behind it are one further. -/
lemma outside_cons (leftOut : Nat → Bool) (s : Segment) (rest : List Segment) :
    outside leftOut (s :: rest) =
      (if leftOut 0 then [] else [s]) ++ outside (fun i => leftOut (i + 1)) rest := by
  have hshift : rest.zipIdx (0 + 1) = rest.zipIdx.map fun (x, i) => (x, i + 1) := by
    rw [List.zipIdx_succ]
  rw [outside, List.zipIdx_cons, List.filter_cons, hshift, List.filter_map]
  cases h : leftOut 0 <;> simp [h, outside, Function.comp_def]

/-- The marker that begins with the first segment comes first. -/
lemma captures_cons (s : Segment) (rest : List Segment) :
    captures (s :: rest) = (markerAt? (s :: rest)).toList ++ captures rest := by
  rw [captures, List.length_cons, List.range_succ_eq_map, List.filterMap_cons, List.filterMap_map,
    List.drop_zero]
  cases markerAt? (s :: rest) <;> rfl

/-- A segment with which no marker begins is kept. -/
lemma kept_of_none {s : Segment} {rest : List Segment} (h : markerAt? (s :: rest) = none) :
    kept (s :: rest) = s :: kept rest := by
  have hrest : (fun i => inMarker (s :: rest) (i + 1)) = inMarker rest := by
    funext i
    simp [inMarker_succ, h]
  rw [kept, outside_cons, hrest, inMarker_zero, h]
  rfl

/-- A marker is left out whole, if no marker begins inside it. -/
lemma kept_of_some {opener content closer : Segment} {behind : List Segment}
    (h : (markerAt? (opener :: content :: closer :: behind)).isSome = true)
    (hcontent : markerAt? (content :: closer :: behind) = none)
    (hcloser : markerAt? (closer :: behind) = none) :
    kept (opener :: content :: closer :: behind) = kept behind := by
  have hbehind : (fun i => inMarker (opener :: content :: closer :: behind) (i + 1 + 1 + 1)) =
      inMarker behind := by
    funext i
    have hpast : ¬ i + 1 + 1 < 2 := by omega
    simp only [inMarker_succ, hcontent, hcloser, hpast, decide_false, Option.isSome_none,
      Bool.false_and, Bool.and_false, Bool.false_or]
  simp only [kept, outside_cons, hbehind]
  simp [inMarker_zero, inMarker_succ, h]

/-! ## Both readers -/

/-- **The first opening tag that is not closed** behind the one segment that it opens for. -/
def unclosed? : List Segment → Option Segment
  | [] => none
  | s :: behind =>
    if s.tag.any Tag.isOpener && !Pass.isClosed behind then some s else unclosed? behind

/-- Segments as they are written, without a tag that eats the white space before it. -/
structure Written (d : Char) (segments : List Segment) : Prop where
  /-- Tags are written with the delimiter. -/
  text : ∀ s ∈ segments, ∀ t, s.tag = some t → s.text = String.ofList (t.text d)
  /-- No tag eats the white space before it. -/
  ne_slurp : ∀ s ∈ segments, s.tag ≠ some .openSlurp

/-- What stands behind a segment is written alike. -/
lemma Written.tail {d : Char} {s : Segment} {rest : List Segment} (h : Written d (s :: rest)) :
    Written d rest :=
  ⟨fun x hx => h.text x (List.mem_cons_of_mem _ hx),
    fun x hx => h.ne_slurp x (List.mem_cons_of_mem _ hx)⟩

/-- A tag names no asset. -/
lemma ofContent?_tag {d : Char} (hd : Delimiter.isValid d = true) (t : Tag) :
    ofContent? (t.text d) = none := by
  have hblank := Delimiter.not_isBlank hd
  have hlt : Text.isBlank '<' = false := by decide
  have hdash : Text.isBlank '-' = false := by decide
  have hline : Text.isBlank '_' = false := by decide
  have hkeyword (k : AssetKind) : Directive.afterKeyword? k.keyword (t.text d) = none := by
    cases k <;> cases t <;>
      simp [Directive.afterKeyword?, Text.trimStart, Tag.text, hblank, hlt, hdash, hline,
        AssetKind.keyword, Text.dropPrefix?]
  simp [ofContent?, kinds, hkeyword]

/-- No marker begins with a segment that is no opening tag. -/
lemma markerAt?_of_not_opener {s : Segment} {rest : List Segment}
    (h : s.tag.any Tag.isOpener = false) : markerAt? (s :: rest) = none := by
  unfold markerAt?
  split
  next heq =>
    cases heq
    rw [if_neg]
    rintro ⟨htag | htag, -⟩ <;> simp [htag, Tag.isOpener] at h
  · rfl

/-- **What taking markers out of segments comes to,** given what was gathered before: the error of
the first opening tag that is not closed, or the segments that belong to no marker and the paths of
those that do. -/
def outcome (text out : String) (found : Markers) (segments : List Segment) :
    Except CompileError (String × Markers) :=
  match unclosed? segments with
  | some s => .error (.unclosedTag ⟨s.text, s.offset, none, text⟩)
  | none => .ok (out ++ String.join ((kept segments).map Segment.text),
      (captures segments).foldl (fun m (kind, path) => m.record kind path) found)

section Outcome

variable {text out : String} {found : Markers} {s : Segment} {rest : List Segment}

/-- An opening tag that is not closed decides the outcome. -/
lemma outcome_of_unclosed (hopen : s.tag.any Tag.isOpener = true)
    (hclosed : Pass.isClosed rest = false) :
    outcome text out found (s :: rest) =
      .error (.unclosedTag ⟨s.text, s.offset, none, text⟩) := by
  simp [outcome, unclosed?, hopen, hclosed]

/-- A segment with which no marker begins is put out. -/
lemma outcome_of_none (hopen : (s.tag.any Tag.isOpener && !Pass.isClosed rest) = false)
    (h : markerAt? (s :: rest) = none) :
    outcome text out found (s :: rest) = outcome text (out ++ s.text) found rest := by
  have hunclosed : unclosed? (s :: rest) = unclosed? rest := by
    rw [unclosed?, hopen]
    rfl
  simp only [outcome, hunclosed, kept_of_none h, captures_cons, h, List.map_cons, String.join_cons,
    String.append_assoc, Option.toList_none, List.nil_append]

/-- A marker is recorded, and none of its segments is put out. -/
lemma outcome_of_some {content closer : Segment} {behind : List Segment} {kind : AssetKind}
    {path : List Char} (h : markerAt? (s :: content :: closer :: behind) = some (kind, path))
    (hclosed : closer.tag.any Tag.isCloser = true) (hcontent : content.tag.any Tag.isOpener = false)
    (hcloser : closer.tag.any Tag.isOpener = false) :
    outcome text out found (s :: content :: closer :: behind) =
      outcome text out (found.record kind path) behind := by
  have hopen : Pass.isClosed (content :: closer :: behind) = true := hclosed
  have hunclosed : unclosed? (s :: content :: closer :: behind) = unclosed? behind := by
    simp [unclosed?, hopen, hcontent, hcloser]
  have hnone : markerAt? (content :: closer :: behind) = none := markerAt?_of_not_opener hcontent
  have hnone' : markerAt? (closer :: behind) = none := markerAt?_of_not_opener hcloser
  have hsome : (markerAt? (s :: content :: closer :: behind)).isSome = true := by rw [h]; rfl
  simp only [outcome, hunclosed, kept_of_some hsome hnone hnone', captures_cons, h, hnone,
    hnone', Option.toList_some, Option.toList_none, List.nil_append, List.singleton_append,
    List.foldl_cons]

end Outcome

/-- Whether a marker begins with a closed tag depends on the tag and on what it holds. -/
lemma markerAt?_of_closed {s content closer : Segment} {behind : List Segment} {tag : Tag}
    (htag : s.tag = some tag) (hne : s.tag ≠ some .openSlurp)
    (hclosed : closer.tag.any Tag.isCloser = true) :
    markerAt? (s :: content :: closer :: behind) =
      if tag.acceptsDirective then ofContent? content.text.toList else none := by
  rw [markerAt?, htag]
  rw [htag] at hne
  cases tag <;> simp_all [Tag.acceptsDirective]

/-- **The reader that jumps over markers** comes to what is said of all segments at once.

**Proof sketch.** Induction on what the reader does.  It puts a segment out only if no marker begins
with it: a literal begins none, and neither does a tag that opens nothing or holds no asset.  Where
it jumps, no marker begins at the two segments that are passed over, and neither of them opens a
region. -/
theorem stripFrom_eq_outcome {d : Char} (hd : Delimiter.isValid d = true) (text out : String)
    (found : Markers) {segments : List Segment} (h : Written d segments) :
    stripFrom text out found segments = outcome text out found segments := by
  fun_induction stripFrom text out found segments with
  | case1 out found => simp [outcome, unclosed?, kept, outside, captures]
  | case2 out found s rest htag ih =>
    rw [ih h.tail, outcome_of_none (by simp [htag]) (markerAt?_of_not_opener (by simp [htag]))]
  | case3 out found s tag htag hopener content closer behind hclosed kind path hpath ih =>
    have hmarker : markerAt? (s :: content :: closer :: behind) = some (kind, path) :=
      (markerAt?_of_closed htag (h.ne_slurp s (by simp)) hclosed).trans hpath
    have hcontent : content.tag = none := by
      by_contra hne
      obtain ⟨t, ht⟩ := Option.ne_none_iff_exists'.1 hne
      rw [h.text content (by simp) t ht, String.toList_ofList, ofContent?_tag hd] at hpath
      simp at hpath
    have hcloser : closer.tag.any Tag.isOpener = false := by
      cases hclose : closer.tag with
      | none => rfl
      | some t =>
        rw [hclose] at hclosed
        cases t <;> simp_all [Tag.isOpener, Tag.isCloser]
    rw [ih h.tail.tail.tail, outcome_of_some hmarker hclosed (by simp [hcontent]) hcloser]
  | case4 out found s tag htag hopener content closer behind hclosed hpath ih =>
    have hmarker : markerAt? (s :: content :: closer :: behind) = none :=
      (markerAt?_of_closed htag (h.ne_slurp s (by simp)) hclosed).trans hpath
    have hopen : Pass.isClosed (content :: closer :: behind) = true := hclosed
    rw [ih h.tail, outcome_of_none (by simp [hopen]) hmarker]
  | case5 out found s tag htag hopener content closer behind hclosed =>
    rw [outcome_of_unclosed (by simp [htag, hopener])]
    simpa [Pass.isClosed] using hclosed
  | case6 out found s rest tag htag hopener hshort =>
    rw [outcome_of_unclosed (by simp [htag, hopener])]
    rcases rest with _ | ⟨content, _ | ⟨closer, behind⟩⟩
    · rfl
    · rfl
    · exact absurd rfl (hshort content closer behind)
  | case7 out found s rest tag htag hopener ih =>
    have hno : s.tag.any Tag.isOpener = false := by simpa [htag] using hopener
    rw [ih h.tail, outcome_of_none (by simp [hno]) (markerAt?_of_not_opener hno)]

/-- A pass that drops directives fails at the first opening tag that is not closed, and nowhere
else. -/
lemma segments_dropping (t : Template) (before : Option Tag) (p : Pass) (segments : List Segment) :
    ∃ q, p.segments t (fun _ p => .ok p) before segments =
      match unclosed? segments with
      | some s => .error (t.unclosed s)
      | none => .ok q := by
  induction segments generalizing before p with
  | nil => exact ⟨p, rfl⟩
  | cons s rest ih =>
    rw [Pass.segments, unclosed?]
    split
    · exact ⟨p, rfl⟩
    · obtain ⟨q, hq⟩ : ∃ q, p.segment t.options (fun _ p => .ok p) before s = .ok q := by
        rw [Pass.segment]
        split
        · exact ⟨_, rfl⟩
        · exact ⟨_, rfl⟩
      rw [hq]
      exact ih s.tag q

/-- The segments of a text without a tag that eats the white space before it. -/
lemma written_split {d : Char} {text : String}
    (h : Text.occursIn (Tag.openSlurp.text d) text.toList = false) :
    Written d (Segment.split d text) := by
  have htext {s : Segment} (hs : s ∈ Segment.split d text) {t : Tag} (ht : s.tag = some t) :
      s.text = String.ofList (t.text d) := by
    rw [Segment.text_of_mem_locate hs, Segment.piece, ht]
    rfl
  refine ⟨fun s hs t ht => htext hs ht, fun s hs ht => ?_⟩
  have hinfix : Tag.openSlurp.text d <:+: text.toList := by
    obtain ⟨front, behind, hsplit⟩ := List.append_of_mem hs
    have hjoin := congrArg String.toList (Segment.join_split d text)
    rw [Segment.toList_join, hsplit, Segment.chars_append, Segment.chars_cons, htext hs ht,
      String.toList_ofList] at hjoin
    exact ⟨Segment.chars front, Segment.chars behind, by rw [List.append_assoc, hjoin]⟩
  rw [Text.occursIn_of_infix hinfix] at h
  cases h

/-- Dropping directives from a text in normal form fails at the first opening tag that is not
closed, and nowhere else.

**Proof sketch.** Dropping directives is a pass that follows none of them (`segments_dropping`). -/
lemma prebuild_eq {options : Options} (hd : Delimiter.isValid options.delimiter = true)
    {text : String}
    (hnormal : Whitespace.normalize options.delimiter options.trimWhitespace text = text) :
    ∃ code, prebuild options text =
      match unclosed? (Segment.split options.delimiter text) with
      | some s => .error (.unclosedTag ⟨s.text, s.offset, options.sourcePath, text⟩)
      | none => .ok code := by
  let t := Template.ofText { options with diagnostics := false } text
  have htext : t.text = text := hnormal
  obtain ⟨q, hq⟩ := segments_dropping t none {} (Segment.split options.delimiter text)
  have hpass : t.pass (fun _ p => .ok p) {} =
      match unclosed? (Segment.split options.delimiter text) with
      | some s => .error (.unclosedTag ⟨s.text, s.offset, options.sourcePath, text⟩)
      | none => .ok q := by
    have hsegments : Segment.splitChecked t.options.delimiter t.text =
        .ok (Segment.split options.delimiter text) := by
      rw [htext]
      exact if_pos hd
    rw [Template.pass, hsegments]
    simp only [Template.unclosed, htext] at hq
    exact hq
  rw [prebuild, Template.withoutDirectives, hpass]
  cases unclosed? (Segment.split options.delimiter text) with
  | some s => exact ⟨"", rfl⟩
  | none => exact ⟨_, rfl⟩

/-- **Taking markers out agrees with compiling on malformed tags, and removes markers only.**  For a
text without tags that eat white space, either both fail at the same opening tag, or both succeed;
then what is left are the segments that belong to no marker, and the paths are those of all
markers, in their order.

**Proof sketch.** Both readers look at the same segments.  The one compiles segment by segment and
fails at the first opening tag that is not closed; the other passes over a marker in one step, but
the content of a marker is a literal and what closes it opens nothing, so no opening tag is missed
and no marker begins inside another. -/
theorem strip_agrees {options : Options} (hd : Delimiter.isValid options.delimiter = true)
    (htrim : options.trimWhitespace = false) {text : String}
    (hopen : Text.occursIn (Tag.openSlurp.text options.delimiter) text.toList = false)
    (hclose : Text.occursIn (Tag.closeSlurp.text options.delimiter) text.toList = false) :
    (∃ u v, strip options.delimiter text = .error (.unclosedTag u) ∧
      prebuild options text = .error (.unclosedTag v) ∧
      u.tag = v.tag ∧ u.line = v.line ∧ u.offset = v.offset) ∨
    (∃ out found code, strip options.delimiter text = .ok (out, found) ∧
      prebuild options text = .ok code ∧
      out = String.join ((kept (Segment.split options.delimiter text)).map Segment.text) ∧
      ∀ kind, found.paths kind =
        ((captures (Segment.split options.delimiter text)).filter (·.1 = kind)).map
          fun x => String.ofList x.2) := by
  have hnormal : Whitespace.normalize options.delimiter false text = text := by
    have hslurp : ¬ Whitespace.Slurped options.delimiter text.toList := by
      rintro ⟨c, -, hinfix | hinfix⟩
      · have := Text.occursIn_of_infix ((List.suffix_cons c _).isInfix.trans hinfix)
        simp [this] at hopen
      · have := Text.occursIn_of_infix ((List.prefix_append _ [c]).isInfix.trans hinfix)
        simp [this] at hclose
    rw [Whitespace.normalize, if_neg (by decide), (Whitespace.slurp_eq_self_iff hd _).2 hslurp,
      String.ofList_toList]
  have hstrip : strip options.delimiter text =
      outcome text "" {} (Segment.split options.delimiter text) := by
    rw [strip, Segment.splitChecked, if_pos hd]
    exact stripFrom_eq_outcome hd text "" {} (written_split hopen)
  obtain ⟨code, hprebuild⟩ := prebuild_eq hd (htrim ▸ hnormal)
  rw [hstrip, hprebuild, outcome]
  cases unclosed? (Segment.split options.delimiter text) with
  | some s => exact .inl ⟨_, _, rfl, rfl, rfl, rfl, rfl⟩
  | none =>
    refine .inr ⟨_, _, code, rfl, rfl, by simp, fun kind => ?_⟩
    rw [paths_foldl_record]
    cases kind <;> simp [paths]

/-- A script between two words, with an expression behind it. -/
theorem strip_agrees_script :
    Delimiter.isValid '%' = true ∧
      Text.occursIn (Tag.openSlurp.text '%') "a<%- referjs x.js b %>c<%= d %>".toList = false ∧
      Text.occursIn (Tag.closeSlurp.text '%') "a<%- referjs x.js b %>c<%= d %>".toList = false ∧
      strip '%' "a<%- referjs x.js b %>c<%= d %>" = .ok ("ac<%= d %>", ⟨["x.js"], []⟩) ∧
      ∃ code, prebuild {} "a<%- referjs x.js b %>c<%= d %>" = .ok code := by
  have hopen : Text.occursIn (Tag.openSlurp.text '%')
      "a<%- referjs x.js b %>c<%= d %>".toList = false := by decide
  have hclose : Text.occursIn (Tag.closeSlurp.text '%')
      "a<%- referjs x.js b %>c<%= d %>".toList = false := by decide
  have hstrip : strip '%' "a<%- referjs x.js b %>c<%= d %>" =
      .ok ("ac<%= d %>", ⟨["x.js"], []⟩) := by decide +kernel
  have hagree := @strip_agrees {} (by decide) rfl _ hopen hclose
  refine ⟨by decide, hopen, hclose, hstrip, ?_⟩
  rcases hagree with ⟨u, -, hu, -⟩ | ⟨-, -, code, -, hcode, -⟩
  · cases hstrip.symm.trans hu
  · exact ⟨code, hcode⟩

end Markers

end Stencil
