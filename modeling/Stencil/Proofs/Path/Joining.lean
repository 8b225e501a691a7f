import Stencil.Proofs.Path.Normal

/-!
# Joining paths

A reference is taken from a directory, and what it then stands for is what the directory stands for
with the parts of the reference pushed behind.  So it does not matter how the directory is spelled.

## Main definitions

* `Stencil.Path.stretchParts` — the parts that the stretches between the separators of a text stand
  for.
* `Stencil.Path.directory` — the directory that the references of a template are taken from.

## Main results

* `Stencil.Path.toNormal_join` — what a reference taken from a directory stands for.
* `Stencil.Path.resolveInclude_eq`, `Stencil.Path.resolveResource_eq` — includes and assets are
  looked for from the directory of the template.
* `Stencil.Path.normalize_spellings` — normal spellings are canonical, and what a reference leads to
  does not depend on how its directory is spelled.

## Design

The front of a spelling is set apart when its parts are read, and a text that is joined has its
front in another place.  `foldl_push_partsOf` does away with the front: what is left of it is
whether the path begins at the root.
-/

set_option relaxedAutoImplicit false
set_option autoImplicit false

namespace Stencil.Path

/-! ## Stretches -/

/-- **The parts that the stretches of a text stand for.** -/
def stretchParts (s : List Char) : List Part := (Text.splitOn ['/'] s).filterMap Part.ofStretch?

/-- The stretches on both sides of a separator. -/
lemma stretchParts_append_separator (s t : List Char) :
    stretchParts (s ++ '/' :: t) = stretchParts s ++ stretchParts t := by
  unfold stretchParts
  rw [Text.splitOn_singleton, Text.splitOn_singleton, Text.splitOn_singleton,
    List.splitOn_append_cons_self, List.filterMap_append]

/-- Nothing stands before a separator at the front. -/
lemma stretchParts_separator (s : List Char) : stretchParts ('/' :: s) = stretchParts s :=
  stretchParts_append_separator [] s

/-- The parts of a spelling begin with the root if there is a separator at the front, and a
single dot at the front makes no difference.

**Proof sketch.** The cases of what stands at the front.  The root begins anew, and so does a dot
with a separator behind it, which is no part. -/
lemma foldl_push_partsOf (n : Normal) (s : List Char) :
    (partsOf s).foldl Normal.push n =
      (stretchParts s).foldl Normal.push
        (if s.head? = some '/' then { absolute := true } else n) := by
  unfold partsOf
  fun_cases splitFront s with
  | case1 rest =>
    rw [stretchParts_separator]
    rfl
  | case2 rest =>
    have hdot : stretchParts ('.' :: '/' :: rest) = stretchParts ('/' :: rest) := by
      rw [stretchParts_separator]
      exact stretchParts_append_separator ['.'] rest
    rw [hdot]
    rfl
  | case3 => rfl
  | case4 s hroot =>
    have hhead : s.head? ≠ some '/' := by
      intro h
      obtain ⟨rest, rfl⟩ := List.head?_eq_some_iff.1 h
      exact hroot rest rfl
    rw [if_neg hhead]
    rfl

/-- What a path stands for, by its stretches. -/
lemma toNormal_eq (p : Path) :
    p.toNormal = (stretchParts p.text.toList).foldl Normal.push { absolute := p.isAbsolute } := by
  rw [toNormal, parts, foldl_push_partsOf, isAbsolute]
  by_cases h : p.text.toList.head? = some '/' <;> simp [h]

/-- One more part leaves where a path begins, unless it is the root. -/
lemma Normal.absolute_push (n : Normal) {part : Part} (h : part ≠ .root) :
    (n.push part).absolute = n.absolute := by
  obtain ⟨absolute, ups, names⟩ := n
  cases part with
  | root => exact absurd rfl h
  | here => rfl
  | up =>
    cases names with
    | cons s rest => rfl
    | nil => cases absolute <;> rfl
  | name s => rfl

/-- No stretch stands for the root. -/
lemma root_notMem_stretchParts (s : List Char) : Part.root ∉ stretchParts s := by
  intro h
  obtain ⟨stretch, -, hstretch⟩ := List.mem_filterMap.1 h
  unfold Part.ofStretch? at hstretch
  split at hstretch
  · cases hstretch
  · split at hstretch <;> cases hstretch

/-- A path and its normal form begin at the same place. -/
lemma absolute_toNormal (p : Path) : p.toNormal.absolute = p.isAbsolute := by
  have hroot := root_notMem_stretchParts p.text.toList
  rw [toNormal_eq]
  generalize stretchParts p.text.toList = parts at hroot ⊢
  suffices ∀ n : Normal, (parts.foldl Normal.push n).absolute = n.absolute from this _
  intro n
  induction parts generalizing n with
  | nil => rfl
  | cons part rest ih =>
    rw [List.mem_cons, not_or] at hroot
    rw [List.foldl_cons, ih hroot.2, n.absolute_push (Ne.symm hroot.1)]

/-! ## Normal spellings -/

/-- To normalize a normal spelling changes nothing. -/
lemma normalize_normalize (p : Path) : p.normalize.normalize = p.normalize := by
  rw [normalize, toNormal_normalize, ← normalize]

/-- A normal spelling begins at the root if the path does. -/
lemma isAbsolute_normalize (p : Path) : p.normalize.isAbsolute = p.isAbsolute := by
  rw [← absolute_toNormal, toNormal_normalize, absolute_toNormal]

/-- No single dot is left in a normal spelling. -/
lemma here_notMem_parts_normalize (p : Path) : Part.here ∉ p.normalize.parts := by
  rw [normalize, (proper_toNormal p).parts_path]
  cases p.toNormal.absolute <;> simp

/-- From the root there is no way up. -/
lemma up_notMem_parts_normalize {p : Path} (h : p.isAbsolute = true) :
    Part.up ∉ p.normalize.parts := by
  have hproper := proper_toNormal p
  have habsolute : p.toNormal.absolute = true := by rw [absolute_toNormal, h]
  rw [normalize, hproper.parts_path, habsolute, hproper.ups habsolute]
  simp

/-- Before a double dot in a normal spelling there are only double dots. -/
lemma eq_up_of_mem_parts_normalize (p : Path) {before behind : List Part}
    (h : p.normalize.parts = before ++ .up :: behind) : ∀ part ∈ before, part = .up := by
  have hmem : Part.up ∈ p.normalize.parts := by simp [h]
  have habsolute : p.toNormal.absolute = false := by
    rw [absolute_toNormal]
    exact (Bool.not_eq_true _).mp fun habsolute => up_notMem_parts_normalize habsolute hmem
  rw [normalize, (proper_toNormal p).parts_path, habsolute] at h
  simp only [Bool.false_eq_true, if_false, List.nil_append] at h
  obtain ⟨more, -, hnames⟩ | ⟨more, hups, -⟩ := List.append_eq_append_iff.1 h
  · -- no name is a double dot
    have hup : Part.up ∈ more ++ .up :: behind := by simp
    rw [← hnames] at hup
    simp at hup
  · intro part hpart
    refine List.eq_of_mem_replicate (n := p.toNormal.ups) ?_
    rw [hups]
    exact List.mem_append_left _ hpart

/-! ## References -/

/-- Stretches behind a path with something to its text are pushed behind it. -/
lemma toNormal_append (b : Path) (hb : b.text.toList ≠ []) {s : String} {t : List Char}
    (h : stretchParts (b.text.toList ++ s.toList) = stretchParts b.text.toList ++ stretchParts t) :
    toNormal ⟨b.text ++ s⟩ = (stretchParts t).foldl Normal.push b.toNormal := by
  have habsolute : isAbsolute ⟨b.text ++ s⟩ = b.isAbsolute := by
    obtain ⟨c, rest, hc⟩ := List.exists_cons_of_ne_nil hb
    simp [isAbsolute, String.toList_append, hc]
  rw [toNormal_eq, toNormal_eq, habsolute, String.toList_append, h, List.foldl_append]

/-- **What a reference taken from a directory stands for:** what it stands for by itself, if it
begins at the root, and otherwise its parts behind the directory.

**Proof sketch.** The cases in which a path is joined: the reference is absolute, the directory is
empty, the directory ends with a separator, or a separator is put in.  In the last two, the parts of
the whole are those of the directory and those of the reference behind them. -/
theorem toNormal_join (b : Path) (r : String) :
    (b.join r).toNormal =
      if (Path.mk r).isAbsolute then (Path.mk r).toNormal
      else (stretchParts r.toList).foldl Normal.push b.toNormal := by
  unfold join
  by_cases hr : r.toList.head? = some '/'
  · simp [hr, isAbsolute]
  have hrelative : (Path.mk r).isAbsolute = false := by simp [isAbsolute, hr]
  rw [hrelative]
  by_cases hempty : b.text.toList = []
  · have hb : b.toNormal = {} := by
      rw [toNormal_eq, isAbsolute, hempty]
      rfl
    have htext : b.text ++ r = r := by
      rw [String.toList_eq_nil_iff.1 hempty, String.empty_append]
    simp only [hr, hempty, htext, true_or, if_true, if_false, Bool.false_eq_true]
    rw [toNormal_eq, hrelative, hb]
  by_cases hlast : b.text.toList.getLast? = some '/'
  · have hparts : stretchParts (b.text.toList ++ r.toList) =
        stretchParts b.text.toList ++ stretchParts r.toList := by
      obtain ⟨front, hfront⟩ := List.getLast?_eq_some_iff.1 hlast
      have hnothing : stretchParts [] = [] := rfl
      rw [hfront, List.append_assoc, List.singleton_append, stretchParts_append_separator,
        stretchParts_append_separator, hnothing, List.append_nil]
    simp only [hr, hlast, or_true, if_true, if_false, Bool.false_eq_true]
    exact toNormal_append b hempty hparts
  · have hparts : stretchParts (b.text.toList ++ ("/" ++ r).toList) =
        stretchParts b.text.toList ++ stretchParts r.toList := by
      rw [String.toList_append]
      exact stretchParts_append_separator _ _
    simp only [hr, hempty, hlast, or_self, if_false, Bool.false_eq_true]
    rw [String.append_assoc]
    exact toNormal_append b hempty hparts

/-- It does not matter how a directory is spelled that a reference is taken from. -/
lemma toNormal_join_congr {b b' : Path} (h : b.toNormal = b'.toNormal) (r : String) :
    (b.join r).toNormal = (b'.join r).toNormal := by
  rw [toNormal_join, toNormal_join, h]

/-- **The directory that the references of a template are taken from.** -/
def directory (current : Path) : Path := current.parent?.getD ⟨"."⟩

/-- An extension goes behind the reference that it is given to. -/
lemma join_append_includeExtension (b : Path) (r : String) :
    (b.join r).text ++ includeExtension = (b.join (r ++ includeExtension)).text := by
  have hhead : (r ++ includeExtension).toList.head? = some '/' ↔ r.toList.head? = some '/' := by
    rw [String.toList_append]
    cases r.toList with
    | nil => decide
    | cons c rest => rfl
  unfold join
  dsimp only
  simp only [hhead]
  split
  · rfl
  · split <;> simp only [String.append_assoc]

/-- **An include is looked for from the directory of the template,** with the usual extension when
the reference has none. -/
theorem resolveInclude_eq (reference : String) (current : Path) :
    resolveInclude reference current =
      (current.directory.join (if (Path.mk reference).extension?.isNone then
        reference ++ includeExtension else reference)).toNormal := by
  unfold resolveInclude directory
  split
  · dsimp only
    rw [join_append_includeExtension]
  · rfl

/-- **An asset is looked for from the directory of the template.** -/
theorem resolveResource_eq (reference : String) (current : Path) :
    resolveResource reference (some current) = (current.directory.join reference).normalize := by
  unfold resolveResource directory
  rw [Option.bind_some]
  cases current.parent? with
  | some base => rfl
  | none =>
    show normalize ⟨reference⟩ = normalize _
    rw [normalize, normalize, Option.getD_none, toNormal_join]
    split
    · rfl
    · next hrelative =>
      have hhere : toNormal ⟨"."⟩ = {} := rfl
      rw [hhere, toNormal_eq, (Bool.not_eq_true _).mp hrelative]

/-- **Normal spellings are canonical, and references can be taken from them.**

1. To normalize twice is to normalize once.  A normal spelling begins at the root just if the path
   does.  It has no single dot; it has no double dot if it begins at the root, and otherwise only
   double dots stand before a double dot.
2. A reference taken from the normal spelling of a directory leads where it leads from the
   directory.
3. From directories of which the normal spellings are the same, includes and assets are found at the
   same path.

**Proof sketch.** What a path stands for is a fold over its parts, and a reference that is joined
has its parts behind those of the directory (`toNormal_join`). -/
theorem normalize_spellings :
    (∀ p : Path, p.normalize.normalize = p.normalize ∧
      p.normalize.isAbsolute = p.isAbsolute ∧ .here ∉ p.normalize.parts ∧
      (p.isAbsolute = true → .up ∉ p.normalize.parts) ∧
      ∀ before behind, p.normalize.parts = before ++ .up :: behind →
        ∀ part ∈ before, part = .up) ∧
    (∀ (b : Path) (r : String), (b.normalize.join r).normalize = (b.join r).normalize) ∧
    ∀ current current' : Path,
      current.directory.normalize = current'.directory.normalize → ∀ reference,
        resolveInclude reference current = resolveInclude reference current' ∧
        resolveResource reference (some current) = resolveResource reference (some current') := by
  refine ⟨fun p => ⟨p.normalize_normalize, p.isAbsolute_normalize, p.here_notMem_parts_normalize,
    up_notMem_parts_normalize, fun before behind => p.eq_up_of_mem_parts_normalize⟩,
    fun b r => ?_, ?_⟩
  · unfold normalize
    rw [toNormal_join_congr (b := b.toNormal.path) (toNormal_normalize b)]
  · intro current current' h reference
    have hdirectory : current.directory.toNormal = current'.directory.toNormal := by
      rw [← toNormal_normalize, h, toNormal_normalize]
    constructor
    · rw [resolveInclude_eq, resolveInclude_eq, toNormal_join_congr hdirectory]
    · rw [resolveResource_eq, resolveResource_eq, normalize, normalize,
        toNormal_join_congr hdirectory]

/-- Two templates in one directory, which the path of the second spells in a roundabout way.  An
include that leads up from there is found at the same path, and no other. -/
theorem normalize_spellings_roundabout :
    let current : Path := ⟨"/site/pages/index.ejs"⟩
    let current' : Path := ⟨"/site/.//parts/../pages/./main.ejs"⟩
    resolveInclude "../parts/head" current = resolveInclude "../parts/head" current' ∧
      (resolveInclude "../parts/head" current').path = ⟨"/site/parts/head.ejs"⟩ := by
  intro current current'
  have h : current.directory.normalize = current'.directory.normalize := by decide
  exact ⟨(normalize_spellings.2.2 current current' h "../parts/head").1, by decide⟩

end Stencil.Path
