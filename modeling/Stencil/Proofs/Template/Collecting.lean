import Mathlib.Data.List.Nodup
import Stencil.Proofs.Template.Metadata

/-!
# Collecting assets

What any sequence of calls leaves in the lists of a collector.  A call adds to the ends of the lists
and changes nothing that is there: a name that the pass names for the first time adds its asset, and
the assets of an included template are taken over as they are.

## Main definitions

* `Stencil.Assets.Group`, `Stencil.Assets.list` — the three lists of assets.
* `Stencil.Collector.Call`, `Stencil.Collector.run` — a call, and calls one after the other.
* `Stencil.Collector.parts`, `Stencil.Collector.own` — what each call adds to a list, and what is
  left without the assets of included templates.

## Main results

* `Stencil.Collector.call_spec` — what one call does to a list and to the names seen.
* `Stencil.Collector.mem_seenIn_run` — the names seen are those that the calls have recorded.
* `Stencil.Collector.own_eq` — what a pass records itself, from any state on.
* `Stencil.Collector.run_collects` — assets are recorded once in a pass, and only in a pass.

## Design

An included template adds to the lists but not to the names seen, so a list is described by what the
calls have recorded, and not by what is in it.
-/

set_option relaxedAutoImplicit false
set_option autoImplicit false

namespace Stencil

/-- **The three groups of assets,** each with a list of its own. -/
inductive Assets.Group where
  /-- Scripts. -/
  | scripts
  /-- Style sheets. -/
  | styles
  /-- Images. -/
  | images
  deriving DecidableEq, Repr

/-- **The assets of one group.** -/
def Assets.list (a : Assets) : Assets.Group → List Asset
  | .scripts => a.scripts
  | .styles => a.styles
  | .images => a.images

/-- A group of assets put behind others. -/
@[simp] lemma Assets.list_append (a b : Assets) (group : Assets.Group) :
    (a.append b).list group = a.list group ++ b.list group := by
  cases group <;> rfl

/-- The group of what directives name. -/
def AssetKind.group : AssetKind → Assets.Group
  | script => .scripts
  | style => .styles

namespace Collector

/-! ## Calls -/

/-- **A call on a collector.** -/
inductive Call where
  /-- A text is looked through for images. -/
  | scanImages (text : String)
  /-- A script or style sheet is named. -/
  | reference (kind : AssetKind) (name : String)
  /-- The assets of an included template are taken over. -/
  | merge (nested : Assets)

namespace Call

/-- The assets that a call takes over from an included template. -/
def nested : Call → Assets
  | merge nested => nested
  | _ => {}

/-- Whether a call takes over the assets of an included template. -/
def isMerge : Call → Bool
  | merge _ => true
  | _ => false

/-- The names that a call records in a list, one time for each time that they are found. -/
def names (group : Assets.Group) : Call → List String
  | scanImages text =>
    if group = .images then (Markup.imageReferences text.toList).filter isRecorded else []
  | reference kind name => if group = kind.group then [name] else []
  | merge _ => []

end Call

/-- A collector after a call. -/
def call (c : Collector) : Call → Collector
  | .scanImages text => c.scanImages text
  | .reference kind name => (c.reference kind name).1
  | .merge nested => c.merge nested

/-- **A collector after some calls.** -/
def run (c : Collector) (calls : List Call) : Collector := calls.foldl call c

/-- The names seen, by the group of what they name. -/
def seenIn (c : Collector) : Assets.Group → List String
  | .scripts => c.seenScripts
  | .styles => c.seenStyles
  | .images => c.seenImages

/-- The asset that a name records in a list. -/
def asset (c : Collector) (group : Assets.Group) (name : String) : Asset :=
  c.describe (group ≠ .images) name

/-- What a call adds to a list: what stands behind what was there before. -/
def added (c : Collector) (group : Assets.Group) (call : Call) : List Asset :=
  ((c.call call).assets.list group).drop (c.assets.list group).length

/-- **What each of some calls adds to a list.** -/
def parts (c : Collector) (group : Assets.Group) : List Call → List (Call × List Asset)
  | [] => []
  | call :: calls => (call, c.added group call) :: (c.call call).parts group calls

/-- **What some calls add to a list,** without the assets of included templates. -/
def own (c : Collector) (group : Assets.Group) (calls : List Call) : List Asset :=
  ((c.parts group calls).filter fun part => !part.1.isMerge).flatMap Prod.snd

variable {c : Collector} {group : Assets.Group} {calls : List Call} {name : String}

/-! ## One call -/

/-- What a call adds to a list, said by the names seen: the assets of those that it names first,
and those that it takes over. -/
def gain (c : Collector) (group : Assets.Group) (call : Call) : List Asset :=
  (newNames (c.seenIn group) (call.names group)).map (c.asset group) ++ call.nested.list group

/-- A name is new unless it has been seen. -/
lemma newNames_singleton (seen : List String) (name : String) :
    newNames seen [name] = if name ∈ seen then [] else [name] := by
  simpa [newNames] using newNames_concat seen [] name

/-- The scripts and the style sheets seen. -/
lemma seenIn_group (c : Collector) (kind : AssetKind) : c.seenIn kind.group = c.seen kind := by
  cases kind <;> rfl

/-- What a reference adds is recorded where it is first named. -/
lemma gain_reference (c : Collector) (group : Assets.Group) (kind : AssetKind) (name : String) :
    c.gain group (.reference kind name) =
      (Assets.ofKind kind (if name ∈ c.seen kind then [] else [c.describe true name])).list
        group := by
  by_cases hgroup : group = kind.group
  · subst hgroup
    rw [gain, Call.names, if_pos rfl, newNames_singleton, seenIn_group]
    split_ifs
    · cases kind <;> rfl
    · cases kind <;> rfl
  · rw [gain, Call.names, if_neg hgroup]
    cases kind <;> cases group <;>
      simp_all [AssetKind.group, Assets.ofKind, Assets.list, Call.nested, newNames]

/-- The names of images are not touched by a reference. -/
lemma seenImages_reference (c : Collector) (kind : AssetKind) (name : String) :
    (c.reference kind name).1.seenImages = c.seenImages := by
  cases kind <;> simp only [reference] <;> split <;> rfl

/-- **What a call does:** it adds its assets at the end of each list, and the names that it records
are seen from then on.

**Proof sketch.** The cases of the call.  A merge adds the lists of another template as they are, a
scan adds the images that are new, and a reference adds one asset to the list of its kind. -/
theorem call_spec (c : Collector) (group : Assets.Group) (call : Call) :
    (c.call call).assets.list group = c.assets.list group ++ c.gain group call ∧
      (∀ name, name ∈ (c.call call).seenIn group ↔
        name ∈ c.seenIn group ∨ name ∈ call.names group) ∧
      (c.call call).describe = c.describe := by
  cases call with
  | merge nested =>
    refine ⟨Assets.list_append .., fun name => ?_, rfl⟩
    cases group <;> simp [Collector.call, merge, seenIn, Call.names]
  | scanImages text =>
    rw [Collector.call, scanImages_eq]
    refine ⟨?_, fun name => ?_, rfl⟩
    · cases group <;> simp [Assets.list, gain, Call.names, Call.nested, newNames, seenIn, asset]
    · cases group <;> simp [seenIn, Call.names, mem_newNames]
      tauto
  | reference kind name =>
    obtain ⟨hassets, hdescribe, hseen⟩ := reference_spec c kind name
    refine ⟨?_, fun name' => ?_, hdescribe⟩
    · rw [Collector.call, hassets, Assets.list_append, gain_reference]
    · have hnames (kind' : AssetKind) : name' ∈ (Call.reference kind name).names kind'.group ↔
          kind' = kind ∧ name' = name := by
        cases kind <;> cases kind' <;> simp [Call.names, AssetKind.group]
      rw [Collector.call]
      cases group with
      | scripts => rw [← AssetKind.group, seenIn_group, seenIn_group, hseen, hnames]
      | styles => rw [← AssetKind.group, seenIn_group, seenIn_group, hseen, hnames]
      | images => cases kind <;> simp [seenIn, seenImages_reference, Call.names, AssetKind.group]

/-- What a call adds to a list is what it is said to add. -/
lemma added_eq (c : Collector) (group : Assets.Group) (call : Call) :
    c.added group call = c.gain group call := by
  rw [added, (call_spec c group call).1, List.drop_left]

/-- A call does not change where references lead. -/
lemma asset_call (c : Collector) (call : Call) : (c.call call).asset = c.asset := by
  funext group name
  rw [asset, asset, (call_spec c group call).2.2]

/-! ## Many calls -/

/-- Calls do not change where references lead. -/
lemma describe_run (c : Collector) (calls : List Call) : (c.run calls).describe = c.describe := by
  induction calls generalizing c with
  | nil => rfl
  | cons call calls ih => exact (ih (c.call call)).trans (call_spec c .images call).2.2

/-- **The names seen are those that the calls have recorded,** and those seen before. -/
theorem mem_seenIn_run (c : Collector) (group : Assets.Group) (calls : List Call) :
    name ∈ (c.run calls).seenIn group ↔
      name ∈ c.seenIn group ∨ name ∈ calls.flatMap (Call.names group) := by
  induction calls generalizing c with
  | nil => simp [run]
  | cons call calls ih =>
    rw [run, List.foldl_cons, ← run, ih, (call_spec c group call).2.1, List.flatMap_cons,
      List.mem_append, or_assoc]

/-- A list is what each of the calls has added to it, in their order. -/
theorem list_run (c : Collector) (group : Assets.Group) (calls : List Call) :
    (c.run calls).assets.list group =
      c.assets.list group ++ (c.parts group calls).flatMap Prod.snd := by
  induction calls generalizing c with
  | nil => simp [run, parts]
  | cons call calls ih =>
    rw [run, List.foldl_cons, ← run, ih, (call_spec c group call).1, parts, List.flatMap_cons,
      added_eq, List.append_assoc]

/-- The assets of an included template are taken over as they are, wherever it is included. -/
theorem eq_of_merge_mem_parts {nested : Assets} {added : List Asset}
    (h : (.merge nested, added) ∈ c.parts group calls) : added = nested.list group := by
  induction calls generalizing c with
  | nil => cases h
  | cons call calls ih =>
    rcases List.mem_cons.1 h with heq | hmem
    · cases heq
      rw [added_eq, gain]
      rfl
    · exact ih hmem

/-- New names in two parts: those of the second part are new behind the first. -/
lemma newNames_append {seen seen' names : List String} (more : List String)
    (h : ∀ name, name ∈ seen' ↔ name ∈ seen ∨ name ∈ names) :
    newNames seen (names ++ more) = newNames seen names ++ newNames seen' more := by
  induction more using List.reverseRecOn with
  | nil => simp [newNames]
  | append_singleton more name ih =>
    have hnew : name ∈ names ++ more ∨ name ∈ seen ↔ name ∈ more ∨ name ∈ seen' := by
      rw [h, List.mem_append]
      tauto
    rw [← List.append_assoc, newNames_concat, newNames_concat, ih]
    by_cases hmem : name ∈ more ∨ name ∈ seen'
    · rw [if_pos hmem, if_pos (hnew.2 hmem)]
    · rw [if_neg hmem, if_neg (mt hnew.1 hmem), List.append_assoc]

/-- What the first call adds, and what the others add behind it. -/
lemma own_cons (c : Collector) (group : Assets.Group) (call : Call) (calls : List Call) :
    c.own group (call :: calls) =
      (newNames (c.seenIn group) (call.names group)).map (c.asset group) ++
        (c.call call).own group calls := by
  rw [own, parts, added_eq, gain]
  cases call <;> cases group <;>
    simp [Call.isMerge, Call.nested, Call.names, Assets.list, own, newNames]

/-- **What a pass records itself:** the assets of the names that it has not seen before, each where
it is first named.

**Proof sketch.** Induction on the calls, for any names seen before.  What the first call records is
seen by the others. -/
theorem own_eq (c : Collector) (group : Assets.Group) (calls : List Call) :
    c.own group calls =
      (newNames (c.seenIn group) (calls.flatMap (Call.names group))).map (c.asset group) := by
  induction calls generalizing c with
  | nil => rfl
  | cons call calls ih =>
    rw [own_cons, ih, asset_call, List.flatMap_cons,
      newNames_append _ (call_spec c group call).2.1, List.map_append]

/-- The parts of a list belong to the calls. -/
lemma map_fst_parts (c : Collector) (group : Assets.Group) (calls : List Call) :
    (c.parts group calls).map Prod.fst = calls := by
  induction calls generalizing c with
  | nil => rfl
  | cons call calls ih => rw [parts, List.map_cons, ih]

/-- Names without repetition are without repetition. -/
lemma nodup_eraseDups (names : List String) : names.eraseDups.Nodup := by
  induction names using List.reverseRecOn with
  | nil => exact List.nodup_nil
  | append_singleton names name ih =>
    rw [eraseDups_concat]
    split_ifs with hmem
    · exact ih
    · rw [← List.concat_eq_append]
      exact List.Nodup.concat (by simpa using hmem) ih

/-- An asset has the name that records it. -/
lemma name_asset (c : Collector) (group : Assets.Group) (name : String) :
    (c.asset group name).name = name := by
  unfold asset describe
  split
  · rfl
  · split <;> rfl

/-- Looking through a text again records nothing. -/
theorem scanImages_run_of_mem {text : String} (h : .scanImages text ∈ calls) :
    (c.run calls).scanImages text = c.run calls := by
  have hnone : newNames (c.run calls).seenImages
      ((Markup.imageReferences text.toList).filter isRecorded) = [] := by
    refine List.eq_nil_iff_forall_not_mem.2 fun name hname => ?_
    obtain ⟨hmem, hseen⟩ := mem_newNames.1 hname
    exact hseen ((mem_seenIn_run c .images calls).2
      (.inr (List.mem_flatMap.2 ⟨_, h, hmem⟩)))
  rw [scanImages_eq, hnone]
  simp

/-- **Assets are recorded once in a pass, and only in a pass.**  After any calls on a new collector,
each of its three lists is what the calls have added to it, one after the other.  A call that takes
over the assets of an included template adds these as they are.  Without them, a list has the names
recorded by the pass, each once and in the order in which they were first recorded, and each with
the asset that it alone determines; no image among them has an empty name or names a network
resource.  Looking through a text again changes nothing, and the path that a reference is given does
not depend on the calls before it.

**Proof sketch.** What one call does is known (`call_spec`).  The lists are followed over the calls
(`list_run`, `own_eq`), the names seen as well (`mem_seenIn_run`). -/
theorem run_collects (component : Option Component) (sourcePath : Option Path)
    (calls : List Call) :
    let c : Collector := { component, sourcePath }
    (∀ group : Assets.Group,
      (c.run calls).assets.list group = (c.parts group calls).flatMap Prod.snd ∧
        (c.parts group calls).map Prod.fst = calls ∧
        (∀ nested added, (.merge nested, added) ∈ c.parts group calls →
          added = nested.list group) ∧
        c.own group calls =
          (calls.flatMap (Call.names group)).eraseDups.map (c.asset group) ∧
        ((c.own group calls).map Asset.name).Nodup ∧
        (c.own group calls).map Asset.name = (calls.flatMap (Call.names group)).eraseDups) ∧
      (∀ image ∈ c.own .images calls, image.name ≠ "" ∧ Path.isOnline image.name = false) ∧
      (∀ text, .scanImages text ∈ calls → (c.run calls).scanImages text = c.run calls) ∧
      ∀ kind kind' name, ((c.run calls).reference kind name).2 = (c.reference kind' name).2 := by
  intro c
  have hown (group : Assets.Group) : c.own group calls =
      (calls.flatMap (Call.names group)).eraseDups.map (c.asset group) := by
    have hseen : c.seenIn group = [] := by cases group <;> rfl
    rw [own_eq, hseen]
    simp [newNames]
  have hnames (group : Assets.Group) : (c.own group calls).map Asset.name =
      (calls.flatMap (Call.names group)).eraseDups := by
    rw [hown, List.map_map]
    exact (List.map_congr_left fun name _ => name_asset c group name).trans (List.map_id _)
  refine ⟨fun group => ⟨?_, map_fst_parts c group calls, fun _ _ => eq_of_merge_mem_parts,
    hown group, ?_, hnames group⟩, fun image himage => ?_, fun _ => scanImages_run_of_mem,
    fun kind kind' name => ?_⟩
  · rw [list_run]
    cases group <;> rfl
  · rw [hnames]
    exact nodup_eraseDups _
  · have hmem : image.name ∈ (calls.flatMap (Call.names .images)).eraseDups :=
      hnames .images ▸ List.mem_map_of_mem himage
    obtain ⟨call, -, hname⟩ := List.mem_flatMap.1 (List.mem_eraseDups.1 hmem)
    cases call with
    | merge nested => cases hname
    | reference kind name => cases kind <;> cases hname
    | scanImages text =>
      have hrecorded := (List.mem_filter.1 hname).2
      simpa [isRecorded] using hrecorded
  · change ((c.run calls).describe true name).path = (c.describe true name).path
    rw [describe_run]

/-- An image in an included template is listed beside the one of the pass. -/
example :
    let nested : Assets := { images := [⟨none, "a", ⟨"/a"⟩⟩] }
    let c := run {} [.scanImages "<img src=a>", .merge nested, .scanImages "<img src=a><img src=b>"]
    c.assets.images.map Asset.name = ["a", "a", "b"] := by
  decide +kernel

end Collector

end Stencil
