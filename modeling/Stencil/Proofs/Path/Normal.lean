import Mathlib.Data.List.Basic
import Mathlib.Tactic.Lemma
import Stencil.Path

/-!
# Normal forms of paths

The spelling of a normal form has exactly the parts of the normal form, so it stands for the normal
form that it was spelled from.

## Main definitions

* `Stencil.Path.IsName` — the names that a path goes down.
* `Stencil.Path.Normal.Proper` — the normal forms that paths have.

## Main results

* `Stencil.Path.toNormal_normalize` — normalizing a path does not change what it stands for.
* `Stencil.Path.toNormal_eq_of_parts` — normal forms with spellings of one path are the same.
-/

set_option relaxedAutoImplicit false
set_option autoImplicit false

namespace Stencil

/-! ## Stretches between separators -/

/-- Looking for a text of one character is looking for this character. -/
lemma Text.splitOn_singleton (c : Char) (s : List Char) : splitOn [c] s = s.splitOn c := by
  rw [List.splitOn_eq_splitOnP, splitOn]
  induction s with
  | nil => rfl
  | cons a s ih =>
    rw [splitFrom, List.splitOnP_cons_eq_if_modifyHead, ← ih]
    by_cases hac : c = a
    · simp [startsWith, dropPrefix?, hac]
    · have hca : ¬ a = c := fun h => hac h.symm
      simp only [startsWith, dropPrefix?, hac, hca, if_false, Option.isSome_none,
        Bool.false_eq_true, beq_iff_eq]
      cases hs : splitFrom [c] 0 s with
      | cons piece pieces => rfl
      | nil => rw [hs] at ih; exact absurd ih.symm (List.splitOnP_ne_nil _ _)

/-- No piece of a text that is split at a character has the character in it. -/
lemma Text.notMem_of_mem_splitOn {c : Char} {s piece : List Char} (h : piece ∈ splitOn [c] s) :
    c ∉ piece := by
  rw [splitOn_singleton] at h
  induction s generalizing piece with
  | nil => simp_all [List.splitOn_nil]
  | cons a s ih =>
    rw [List.splitOn_cons_eq_if_modifyHead] at h
    split at h
    · rcases List.mem_cons.1 h with rfl | h
      · exact List.not_mem_nil
      · exact ih h
    · next hac =>
      obtain ⟨first, more, hpieces⟩ := List.exists_cons_of_ne_nil (List.splitOn_ne_nil c s)
      rw [hpieces, List.modifyHead_cons] at h
      rw [hpieces] at ih
      rcases List.mem_cons.1 h with rfl | h
      · have hca : ¬ c = a := fun hca => hac (beq_iff_eq.2 hca.symm)
        simpa [hca] using ih List.mem_cons_self
      · exact ih (List.mem_cons_of_mem first h)

namespace Path

/-- **The names that a path goes down:** there is something to them, no separator is in them, and
they are neither of the dots. -/
structure IsName (s : List Char) : Prop where
  /-- There is something to a name. -/
  ne_nil : s ≠ []
  /-- A single dot is no name. -/
  ne_here : s ≠ ['.']
  /-- A double dot is no name. -/
  ne_up : s ≠ ['.', '.']
  /-- Names are what separators stand between. -/
  separator_notMem : '/' ∉ s

/-- A name stands for itself. -/
lemma IsName.ofStretch? {s : List Char} (h : IsName s) : Part.ofStretch? s = some (.name s) := by
  simp [Part.ofStretch?, h.ne_nil, h.ne_here, h.ne_up]

/-- The names among the parts of a spelling are names. -/
lemma isName_of_mem_partsOf {s name : List Char} (h : .name name ∈ partsOf s) : IsName name := by
  rw [partsOf, List.mem_append] at h
  rcases h with hfront | hbody
  · simp only [Part.ofFront?] at hfront
    split at hfront
    · simp at hfront
    · split at hfront <;> simp at hfront
  · obtain ⟨stretch, hmem, hstretch⟩ := List.mem_filterMap.1 hbody
    unfold Part.ofStretch? at hstretch
    split at hstretch
    · cases hstretch
    · next hidle =>
      split at hstretch
      · cases hstretch
      · next hup =>
        cases hstretch
        rw [not_or] at hidle
        exact ⟨hidle.1, hidle.2, hup, Text.notMem_of_mem_splitOn hmem⟩

namespace Normal

/-- **The normal forms that paths have.** -/
structure Proper (n : Normal) : Prop where
  /-- There is no way up from the root. -/
  ups : n.absolute = true → n.ups = 0
  /-- What the path goes down are names. -/
  names : ∀ s ∈ n.names, IsName s

/-- One more part leaves a normal form proper. -/
lemma Proper.push {n : Normal} (h : n.Proper) {part : Part}
    (hpart : ∀ s, part = .name s → IsName s) : (n.push part).Proper := by
  obtain ⟨absolute, ups, names⟩ := n
  cases part with
  | root => exact ⟨fun _ => rfl, by simp [Normal.push]⟩
  | here => exact h
  | up =>
    cases names with
    | cons s rest => exact ⟨h.ups, fun t ht => h.names t (List.mem_cons_of_mem s ht)⟩
    | nil =>
      cases absolute with
      | true => exact h
      | false => exact ⟨by simp [Normal.push], by simp [Normal.push]⟩
  | name s => exact ⟨h.ups, List.forall_mem_cons.2 ⟨hpart s rfl, h.names⟩⟩

end Normal

/-- The normal form of a path is proper. -/
lemma proper_toNormal (p : Path) : p.toNormal.Proper := by
  have hparts : ∀ s, Part.name s ∈ p.parts → IsName s := fun s => isName_of_mem_partsOf
  rw [toNormal]
  generalize p.parts = parts at hparts
  have hstart : ({} : Normal).Proper := ⟨fun _ => rfl, by simp⟩
  generalize ({} : Normal) = n at hstart ⊢
  induction parts generalizing n with
  | nil => exact hstart
  | cons part rest ih =>
    exact ih (fun s hs => hparts s (List.mem_cons_of_mem part hs)) _
      (hstart.push fun s hs => hparts s (hs ▸ List.mem_cons_self))

/-! ## The parts of a spelling -/

/-- What stands between the separators of a normal spelling. -/
structure IsStretch (s : List Char) : Prop where
  /-- It is not empty. -/
  ne_nil : s ≠ []
  /-- It is no single dot. -/
  ne_here : s ≠ ['.']
  /-- No separator is in it. -/
  separator_notMem : '/' ∉ s

/-- Nothing is set apart at the front of stretches. -/
lemma splitFront_intercalate {stretches : List (List Char)} (h : ∀ s ∈ stretches, IsStretch s) :
    splitFront (List.intercalate ['/'] stretches) = ([], List.intercalate ['/'] stretches) := by
  cases stretches with
  | nil => rfl
  | cons first rest =>
    obtain ⟨hne, hhere, hseparator⟩ := h first List.mem_cons_self
    obtain ⟨more, hmore⟩ : ∃ more, List.intercalate ['/'] (first :: rest) = first ++ more := by
      cases rest with
      | nil => exact ⟨[], by simp⟩
      | cons second rest =>
        exact ⟨_, by rw [List.intercalate_cons_cons, List.append_assoc]⟩
    rw [hmore]
    clear hmore h
    obtain ⟨c, tail, rfl⟩ := List.exists_cons_of_ne_nil hne
    -- a stretch that begins with a dot goes on, and not with a separator
    cases tail with
    | nil => unfold splitFront; split <;> simp_all
    | cons c' tail => unfold splitFront; split <;> simp_all

/-- The pieces of stretches with separators between them stand for what the stretches stand for. -/
lemma filterMap_splitOn_intercalate {stretches : List (List Char)}
    (h : ∀ s ∈ stretches, IsStretch s) :
    (Text.splitOn ['/'] (List.intercalate ['/'] stretches)).filterMap Part.ofStretch? =
      stretches.filterMap Part.ofStretch? := by
  by_cases hempty : stretches = []
  · subst hempty
    rfl
  · rw [Text.splitOn_singleton,
      List.splitOn_intercalate '/' (fun s hs => (h s hs).separator_notMem) hempty]

namespace Normal

/-- What stands between the separators of a normal spelling. -/
def stretches (n : Normal) : List (List Char) := List.replicate n.ups ['.', '.'] ++ n.names.reverse

variable {n : Normal}

/-- The parts of a proper normal form are stretches of a path. -/
lemma Proper.isStretch (h : n.Proper) : ∀ s ∈ n.stretches, IsStretch s := by
  intro s hs
  rcases List.mem_append.1 hs with hup | hname
  · obtain rfl := List.eq_of_mem_replicate hup
    exact ⟨by simp, by simp, by simp⟩
  · obtain ⟨hne, hhere, -, hseparator⟩ := h.names s (List.mem_reverse.1 hname)
    exact ⟨hne, hhere, hseparator⟩

/-- The parts of a normal spelling are the root if the path begins there, the steps up and the
names.

**Proof sketch.** Cutting the spelling at its separators gives back its stretches, as none of them
has a separator in it, and each stretch is a step up or a name. -/
lemma Proper.parts_path (h : n.Proper) :
    n.path.parts = (if n.absolute then [.root] else []) ++
      (List.replicate n.ups .up ++ n.names.reverse.map .name) := by
  have hstretches : n.stretches.filterMap Part.ofStretch? =
      List.replicate n.ups .up ++ n.names.reverse.map .name := by
    rw [stretches, List.filterMap_append]
    congr 1
    · rw [List.filterMap_replicate]
      rfl
    · rw [List.filterMap_eq_map_iff_forall_eq_some]
      exact fun s hs => (h.names s (List.mem_reverse.1 hs)).ofStretch?
  rw [parts, path, String.toList_ofList, spelling, ← stretches, partsOf]
  cases n.absolute with
  | true =>
    simp only [if_true, List.singleton_append, splitFront]
    rw [filterMap_splitOn_intercalate h.isStretch, hstretches]
    rfl
  | false =>
    simp only [Bool.false_eq_true, if_false, List.nil_append]
    rw [splitFront_intercalate h.isStretch, filterMap_splitOn_intercalate h.isStretch, hstretches]
    rfl

/-- Steps up are counted where there is no name to go back on. -/
lemma foldl_push_up (n : Normal) (habsolute : n.absolute = false) (hnames : n.names = [])
    (ups : Nat) :
    (List.replicate ups .up).foldl push n = { n with ups := n.ups + ups } := by
  induction ups generalizing n with
  | zero => rfl
  | succ ups ih =>
    have hpush : n.push .up = { n with ups := n.ups + 1 } := by simp [push, habsolute, hnames]
    rw [List.replicate_succ, List.foldl_cons, hpush,
      ih { n with ups := n.ups + 1 } habsolute hnames, Nat.add_right_comm, Nat.add_assoc]

/-- Names are put one behind the other. -/
lemma foldl_push_name (n : Normal) (names : List (List Char)) :
    (names.map .name).foldl push n = { n with names := names.reverse ++ n.names } := by
  induction names generalizing n with
  | nil => rfl
  | cons s rest ih => simp [ih, push]

/-- A normal spelling stands for the normal form that it spells. -/
theorem Proper.toNormal_path (h : n.Proper) : n.path.toNormal = n := by
  have hups := h.ups
  obtain ⟨absolute, ups, names⟩ := n
  rw [toNormal, h.parts_path]
  cases absolute with
  | true =>
    obtain rfl : ups = 0 := hups rfl
    have hroot : ({} : Normal).push .root = { absolute := true } := rfl
    simp only [if_true, List.replicate_zero, List.nil_append, List.foldl_append, List.foldl_cons,
      List.foldl_nil, hroot, foldl_push_name, List.reverse_reverse, List.append_nil]
  | false =>
    simp only [Bool.false_eq_true, if_false, List.nil_append, List.foldl_append,
      foldl_push_up, foldl_push_name, List.reverse_reverse, List.append_nil, Nat.zero_add]

end Normal

/-- **Normalizing a path does not change what it stands for.** -/
theorem toNormal_normalize (p : Path) : p.normalize.toNormal = p.toNormal :=
  (proper_toNormal p).toNormal_path

/-- A path in normal spelling, up to what no spelling says. -/
def IsNormal (p : Path) : Prop := p.parts = p.normalize.parts

instance (p : Path) : Decidable p.IsNormal := inferInstanceAs (Decidable (p.parts = _))

/-- The normal spelling of a path is normal. -/
lemma isNormal_normalize (p : Path) : p.normalize.IsNormal := by
  show p.normalize.parts = p.normalize.toNormal.path.parts
  rw [toNormal_normalize, normalize]

/-- The spelling of a normal form is of a path in normal spelling exactly if it is its normal
form. -/
lemma IsNormal.same_iff {p : Path} (hp : p.IsNormal) {n : Normal} (hn : n.Proper) :
    n.path.same p = true ↔ n = p.toNormal := by
  rw [same, decide_eq_true_iff, hp]
  constructor
  · intro h
    rw [← hn.toNormal_path, ← toNormal_normalize p, toNormal, toNormal, h]
  · rintro rfl
    rfl

/-- Normal forms of paths whose spellings are of one path are the same. -/
theorem toNormal_eq_of_parts {p q : Path} (h : p.normalize.parts = q.normalize.parts) :
    p.toNormal = q.toNormal := by
  rw [← toNormal_normalize p, ← toNormal_normalize q, toNormal, toNormal, h]

end Path

end Stencil
