import Mathlib.Data.Finset.Card
import Stencil.Proofs.Session.Caching

/-!
# What a bounded cache keeps

A cache of limited capacity keeps what was used last.  What that means is said by the history of its
uses alone: something is found under a key if it was put there, nothing has been dropped on purpose
since, and fewer other keys than may be kept have been used in the meantime.

## Main definitions

* `Stencil.Cache.Use`, `Stencil.Cache.Event` — what may be done with a cache, and what it comes to.
* `Stencil.Cache.after`, `Stencil.Cache.history` — a cache behind some uses, and what they came to.
* `Stencil.Cache.sinceReset`, `Stencil.Cache.sinceUse`, `Stencil.Cache.lastSet?` — parts of a
  history.
* `Stencil.Cache.recent` — the keys of a history, the one used last first.

## Main results

* `Stencil.Cache.keepsFirst_after` — the keys of a cache are the first of the keys used last.
* `Stencil.Cache.mem_takeWhile_recent_iff` — the keys in front of a key are those used since.
* `Stencil.Cache.get?_recent` — when something is found, and what.

## Design

The store of the cache is any that drops the entry used longest ago (`BoundedStore.KeepsRecent`).
The keys used last are kept without any bound, so that they can be read off the history.  A cache
has the beginning of them: a key that was dropped stands behind the bound until something is put
there anew.
-/

set_option relaxedAutoImplicit false
set_option autoImplicit false

namespace Stencil.Cache

variable {σ α : Type} {n : Nat}

/-! ## Histories -/

/-- **A use of a cache.** -/
inductive Use (α : Type) where
  /-- Something is put under a path. -/
  | set (path : Path) (a : α)
  /-- Something is looked for under a path. -/
  | get (path : Path)
  /-- Everything is dropped. -/
  | reset

/-- **What a use of a cache comes to.** -/
inductive Event (α : Type) where
  /-- Something was put under a key. -/
  | set (key : Path.Key) (a : α)
  /-- Something was found under a key. -/
  | hit (key : Path.Key)
  /-- Nothing was found under a key. -/
  | miss (key : Path.Key)
  /-- Everything was dropped. -/
  | reset

namespace Event

/-- The key that was set or hit. -/
def used? : Event α → Option (Path.Key)
  | set key _ => some key
  | hit key => some key
  | _ => none

/-- To set a key is to use it. -/
@[simp] lemma used?_set (key : Path.Key) (a : α) : (set key a).used? = some key := rfl

/-- To find a key is to use it. -/
@[simp] lemma used?_hit (key : Path.Key) : (hit key : Event α).used? = some key := rfl

/-- To miss a key is not. -/
@[simp] lemma used?_miss (key : Path.Key) : (miss key : Event α).used? = none := rfl

/-- What was put under a key. -/
def setAt? (key : Path.Key) : Event α → Option α
  | set k a => if k = key then some a else none
  | _ => none

/-- Whether everything was dropped. -/
def isReset : Event α → Bool
  | reset => true
  | _ => false

end Event

/-- What a use comes to, and the cache after it. -/
def use (c : Cache σ α) : Use α → Event α × Cache σ α
  | .set path a => (.set path.parts a, c.insert path a)
  | .get path =>
    (if (c.get? path).1.isSome then .hit path.parts else .miss path.parts, (c.get? path).2)
  | .reset => (.reset, c.clear)

/-- **A cache behind some uses.** -/
def after (c : Cache σ α) (uses : List (Use α)) : Cache σ α := uses.foldl (fun c u => (c.use u).2) c

/-- **What uses of a cache come to,** one after the other. -/
def history (c : Cache σ α) : List (Use α) → List (Event α)
  | [] => []
  | u :: uses => (c.use u).1 :: (c.use u).2.history uses

/-- **What happened since everything was dropped,** the last first. -/
def sinceReset (h : List (Event α)) : List (Event α) := h.reverse.takeWhile fun e => !e.isReset

/-- **What happened since a key was set or hit,** the last first. -/
def sinceUse (key : Path.Key) (h : List (Event α)) : List (Event α) :=
  h.reverse.takeWhile fun e => e.used? ≠ some key

/-- **What was put under a key last.** -/
def lastSet? (key : Path.Key) (h : List (Event α)) : Option α :=
  h.reverse.findSome? (Event.setAt? key)

/-- The cache after one more use. -/
lemma after_concat (c : Cache σ α) (uses : List (Use α)) (u : Use α) :
    c.after (uses ++ [u]) = ((c.after uses).use u).2 := by
  simp [after]

/-- The events of one more use. -/
lemma history_concat (c : Cache σ α) (uses : List (Use α)) (u : Use α) :
    c.history (uses ++ [u]) = c.history uses ++ [((c.after uses).use u).1] := by
  induction uses generalizing c with
  | nil => rfl
  | cons v uses ih => simp [history, ih, after]

/-! ## The keys used last -/

/-- Keys with one of them moved to the front. -/
def toFront (key : Path.Key) (used : List Path.Key) : List Path.Key :=
  key :: used.filter (· ≠ key)

/-- The keys used last after one more event. -/
def recentAfter (used : List Path.Key) : Event α → List Path.Key
  | .set key _ => toFront key used
  | .hit key => toFront key used
  | .miss _ => used
  | .reset => []

/-- **The keys that were used** since everything was dropped, the one used last first. -/
def recent (h : List (Event α)) : List Path.Key := h.foldl recentAfter []

/-- The keys in the order of their last uses, after one more event. -/
lemma recent_concat (h : List (Event α)) (e : Event α) :
    recent (h ++ [e]) = recentAfter (recent h) e := by
  simp [recent]

variable {key k : Path.Key} {used : List Path.Key} {h : List (Event α)}

/-- Moving a key to the front adds it and takes away nothing. -/
lemma mem_toFront : k ∈ toFront key used ↔ k = key ∨ k ∈ used := by
  by_cases hk : k = key <;> simp [toFront, hk]

/-- A key that goes to the front is taken from where it was. -/
lemma nodup_toFront (h : used.Nodup) : (toFront key used).Nodup :=
  List.nodup_cons.2 ⟨by simp, h.filter _⟩

/-- No key stands twice among those used last. -/
lemma nodup_recent (h : List (Event α)) : (recent h).Nodup := by
  induction h using List.reverseRecOn with
  | nil => exact List.nodup_nil
  | append_singleton h e ih =>
    rw [recent_concat]
    cases e with
    | set key a => exact nodup_toFront ih
    | hit key => exact nodup_toFront ih
    | miss key => exact ih
    | reset => exact List.nodup_nil

/-- Taking a key out of the beginning of a list moves up at most one of what stands behind it.

**Proof sketch.** Induction on the list.  If the key comes first, it is the only one to be taken
out, and there is one more element to make up for it. -/
lemma take_filter_take (h : used.Nodup) (m : Nat) :
    ((used.take (m + 1)).filter (· ≠ key)).take m = (used.filter (· ≠ key)).take m := by
  induction used generalizing m with
  | nil => rfl
  | cons k used ih =>
    obtain ⟨hk, hnodup⟩ := List.nodup_cons.1 h
    rw [List.take_succ_cons]
    by_cases hkey : k = key
    · subst hkey
      have hall : ∀ x ∈ used, decide (x ≠ k) = true := fun x hx =>
        decide_eq_true fun e => hk (e ▸ hx)
      have hsome : ∀ x ∈ used.take m, decide (x ≠ k) = true := fun x hx =>
        hall x (List.mem_of_mem_take hx)
      rw [List.filter_cons_of_neg (by simp), List.filter_cons_of_neg (by simp),
        List.filter_eq_self.2 hall, List.filter_eq_self.2 hsome, List.take_take, min_self]
    · rw [List.filter_cons_of_pos (by simpa using hkey),
        List.filter_cons_of_pos (by simpa using hkey)]
      cases m with
      | zero => rfl
      | succ m => rw [List.take_succ_cons, List.take_succ_cons, ih hnodup m]

/-- A key moved to the front of the beginning of a list is moved to the front of the list. -/
lemma take_toFront_take (h : used.Nodup) (n : Nat) :
    (toFront key (used.take n)).take n = (toFront key used).take n := by
  cases n with
  | zero => rfl
  | succ m => simp only [toFront, List.take_succ_cons, take_filter_take h m]

/-- A list is not longer when one of its elements is moved to the front. -/
lemma length_toFront_le (h : key ∈ used) : (toFront key used).length ≤ used.length :=
  List.length_filter_lt_length_iff_exists.2 ⟨key, h, by simp⟩

/-! ## A cache has the beginning of them -/

variable {store : BoundedStore σ α} {capacity : σ → Nat} {entries : σ → List (Path.Key × α)}
  {c : Cache σ α} {path : Path} {state : σ}

/-- A cache with a store that may keep `n` entries and keeps the first `n` of some keys. -/
inductive KeepsFirst (store : BoundedStore σ α) (capacity : σ → Nat)
    (entries : σ → List (Path.Key × α)) (n : Nat) (used : List Path.Key) : Cache σ α → Prop where
  /-- The state of the store is such. -/
  | intro (state : σ) (hcapacity : capacity state = n)
    (hkeys : (entries state).map Prod.fst = used.take n) :
    KeepsFirst store capacity entries n used (.bounded store state)

/-- Putting an entry in front moves its key to the front. -/
lemma map_fst_putFirst (key : Path.Key) (a : α) (es : List (Path.Key × α)) :
    (BoundedStore.putFirst key a es).map Prod.fst = toFront key (es.map Prod.fst) := by
  simp [BoundedStore.putFirst, BoundedStore.without, toFront, List.filter_map, Function.comp_def]

/-- What is too much at the end is dropped. -/
lemma trim_eq_take {es : List (Path.Key × α)} (h : es.length ≤ n + 1) :
    BoundedStore.trim n es = es.take n := by
  unfold BoundedStore.trim
  split
  · next hlt =>
    have hlength : es.length - 1 = n := by omega
    rw [List.dropLast_eq_take, hlength]
  · next hle => exact (List.take_of_length_le (not_lt.1 hle)).symm

/-- Something is found exactly under the keys of a store. -/
lemma isSome_get?_iff (h : store.KeepsRecent capacity entries) :
    ((bounded store state).get? path).1.isSome = true ↔
      path.parts ∈ (entries state).map Prod.fst := by
  have hfound : ((bounded store state).get? path).1 = (entries state).lookup path.parts :=
    h.fst_get? state path.parts
  simp [hfound, List.lookup_isSome_iff]

/-- Something is found exactly under the keys that a cache has the beginning of. -/
lemma KeepsFirst.isSome_get?_iff (hc : KeepsFirst store capacity entries n used c)
    (h : store.KeepsRecent capacity entries) :
    (c.get? path).1.isSome = true ↔ path.parts ∈ used.take n := by
  obtain ⟨state, -, hkeys⟩ := hc
  rw [← hkeys]
  exact Cache.isSome_get?_iff h

/-- There are no more entries than may be kept. -/
lemma KeepsFirst.size_le (hc : KeepsFirst store capacity entries n used c)
    (h : store.KeepsRecent capacity entries) : c.size ≤ n := by
  obtain ⟨state, -, hkeys⟩ := hc
  have hsize : (bounded store state).size = ((entries state).map Prod.fst).length :=
    (h.size_eq state).trans (List.length_map _).symm
  rw [hsize, hkeys]
  exact List.length_take_le n used

/-- A use keeps the beginning of the keys used last.  A key that is found is among them, so that
moving it to the front drops nothing.

**Proof sketch.** The cases of the use.  To put a key to the front and to cut the list down commute
(`take_toFront_take`), and the laws of the store say that its entries undergo the first. -/
lemma KeepsFirst.use (h : store.KeepsRecent capacity entries) (hnodup : used.Nodup)
    (hc : KeepsFirst store capacity entries n used c) (u : Use α) :
    KeepsFirst store capacity entries n (recentAfter used (c.use u).1) (c.use u).2 := by
  obtain ⟨state, hcapacity, hkeys⟩ := hc
  cases u with
  | set path a =>
    refine .intro _ ((h.capacity_insert _ _ _).trans hcapacity) ?_
    have hlength : (BoundedStore.putFirst path.parts a (entries state)).length ≤ n + 1 := by
      have hsize := congrArg List.length hkeys
      have hfilter := List.length_filter_le (fun e => decide (e.1 ≠ path.parts)) (entries state)
      simp only [List.length_map, List.length_take] at hsize
      simp only [BoundedStore.putFirst, BoundedStore.without, List.length_cons]
      omega
    show (entries (store.insert state path.parts a)).map Prod.fst =
      (toFront path.parts used).take n
    rw [h.entries_insert, hcapacity, trim_eq_take hlength, List.map_take, map_fst_putFirst, hkeys,
      take_toFront_take hnodup]
  | reset =>
    refine .intro _ ((h.capacity_clear _).trans hcapacity) ?_
    simp [h.entries_clear, Cache.use, recentAfter]
  | get path =>
    refine .intro _ ((h.capacity_get? _ _).trans hcapacity) ?_
    cases hget : (store.get? state path.parts).1 with
    | none =>
      have hevent : ((bounded store state).use (.get path)).1 = .miss path.parts := by
        simp [Cache.use, Cache.get?, hget]
      rw [hevent, h.entries_get?_of_none hget, hkeys]
      rfl
    | some a =>
      have hevent : ((bounded store state).use (.get path)).1 = .hit path.parts := by
        simp [Cache.use, Cache.get?, hget]
      have hmem : path.parts ∈ used.take n := by
        rw [← hkeys, ← Cache.isSome_get?_iff h]
        simp [Cache.get?, hget]
      have hlength : (toFront path.parts (used.take n)).length ≤ n :=
        (length_toFront_le hmem).trans (List.length_take_le n used)
      rw [hevent, h.entries_get?_of_some hget, map_fst_putFirst, hkeys]
      show toFront path.parts (used.take n) = (toFront path.parts used).take n
      rw [← take_toFront_take hnodup, List.take_of_length_le hlength]

/-- **The keys of a cache are the first of the keys used last.** -/
theorem keepsFirst_after (h : store.KeepsRecent capacity entries) (n : Nat) (uses : List (Use α)) :
    KeepsFirst store capacity entries n (recent ((bounded store (store.new n)).history uses))
      ((bounded store (store.new n)).after uses) := by
  induction uses using List.reverseRecOn with
  | nil =>
    refine .intro _ (h.capacity_new n) ?_
    simp [h.entries_new, history, recent]
  | append_singleton uses u ih =>
    rw [after_concat, history_concat, recent_concat]
    exact ih.use h (nodup_recent _) u

/-! ## What is kept under a key -/

variable {Held : σ → Path.Key → α → Prop}

/-- A use leaves the store as it is. -/
lemma Lawful.use (h : c.Lawful Held) (u : Use α) : (c.use u).2.Lawful Held := by
  cases u with
  | set path a => exact h.insert path a
  | get path => exact h.get? path
  | reset => exact h.clear

/-- Uses leave the store as it is. -/
lemma Lawful.after (h : c.Lawful Held) (uses : List (Use α)) : (c.after uses).Lawful Held := by
  induction uses using List.reverseRecOn with
  | nil => exact h
  | append_singleton uses u ih =>
    rw [after_concat]
    exact ih.use u

/-- What a key was last set to, after one more event. -/
lemma lastSet?_concat (h : List (Event α)) (e : Event α) :
    lastSet? key (h ++ [e]) = (e.setAt? key).or (lastSet? key h) := by
  cases hset : e.setAt? key <;> simp [lastSet?, hset]

/-- A cache keeps what was put under a key last, whatever it drops of its own accord.

**Proof sketch.** Induction on the uses from the last one.  The laws say that only putting something
in adds to what is held. -/
theorem Fresh.lastSet?_of_holds (hc : c.Fresh Held) {a : α} (uses : List (Use α))
    (h : (c.after uses).Holds Held key a) : lastSet? key (c.history uses) = some a := by
  have hlawful := hc.lawful.after
  induction uses using List.reverseRecOn with
  | nil => exact absurd h (hc.not_holds key a)
  | append_singleton uses u ih =>
    rw [after_concat] at h
    rw [history_concat, lastSet?_concat]
    cases u with
    | set path b =>
      obtain ⟨rfl, rfl⟩ | ⟨hne, hold⟩ := (hlawful uses).holds_of_holds_insert h
      · simp [use, Event.setAt?]
      · simp [use, Event.setAt?, Ne.symm hne, ih hold]
    | get path =>
      have hset : ((c.after uses).use (.get path)).1.setAt? key = none := by
        simp only [use]
        split <;> rfl
      rw [hset, Option.none_or]
      exact ih ((hlawful uses).holds_of_holds_get? h)
    | reset => exact absurd h ((hlawful uses).not_holds_clear key a)

/-! ## The keys used last, read off the history -/

/-- What has happened since the last reset, after one more event. -/
lemma sinceReset_concat (h : List (Event α)) (e : Event α) :
    sinceReset (h ++ [e]) = if e.isReset then [] else e :: sinceReset h := by
  cases hreset : e.isReset <;> simp [sinceReset, hreset]

/-- What has happened since the last use of a key, after one more event. -/
lemma sinceUse_concat (h : List (Event α)) (e : Event α) :
    sinceUse key (h ++ [e]) = if e.used? = some key then [] else e :: sinceUse key h := by
  by_cases hused : e.used? = some key <;> simp [sinceUse, hused]

/-- A key that is hit was used before. -/
lemma mem_recent_of_hit (hc : KeepsFirst store capacity entries n used c)
    (h : store.KeepsRecent capacity entries) {u : Use α} (hhit : (c.use u).1 = .hit key) :
    key ∈ used := by
  obtain ⟨state, -, hkeys⟩ := hc
  cases u with
  | set path a => cases hhit
  | reset => cases hhit
  | get path =>
    simp only [use] at hhit
    split at hhit
    · next hsome =>
      cases hhit
      rw [isSome_get?_iff h, hkeys] at hsome
      exact List.mem_of_mem_take hsome
    · cases hhit

/-- The keys used last are those that were set since everything was dropped.

**Proof sketch.** Induction on the uses from the last one.  A hit is that of a key which is among
those used last already (`mem_recent_of_hit`), and so was set before. -/
theorem mem_recent_iff (h : store.KeepsRecent capacity entries) (n : Nat) (uses : List (Use α)) :
    key ∈ recent ((bounded store (store.new n)).history uses) ↔
      ∃ a, .set key a ∈ sinceReset ((bounded store (store.new n)).history uses) := by
  induction uses using List.reverseRecOn with
  | nil => simp [history, recent, sinceReset]
  | append_singleton uses u ih =>
    rw [history_concat, recent_concat, sinceReset_concat]
    cases hevent : (((bounded store (store.new n)).after uses).use u).1 with
    | set k a =>
      rw [recentAfter, mem_toFront, ih]
      simp only [Event.isReset, Bool.false_eq_true, if_false, List.mem_cons, Event.set.injEq]
      constructor
      · rintro (rfl | ⟨b, hb⟩)
        · exact ⟨a, .inl ⟨rfl, rfl⟩⟩
        · exact ⟨b, .inr hb⟩
      · rintro ⟨b, ⟨rfl, -⟩ | hb⟩
        · exact .inl rfl
        · exact .inr ⟨b, hb⟩
    | hit k =>
      have hold : key = k → key ∈ recent ((bounded store (store.new n)).history uses) :=
        fun hkey => hkey ▸ mem_recent_of_hit (keepsFirst_after h n uses) h hevent
      rw [recentAfter, mem_toFront, or_iff_right_of_imp hold, ih]
      simp [Event.isReset]
    | miss k => simp [recentAfter, ih, Event.isReset]
    | reset => simp [recentAfter, Event.isReset]

/-- **The keys in front of a key** are those that were used since it was.

**Proof sketch.** Induction on the history from its last event.  A use of the key itself empties
both sides.  A use of another key adds it to both, and it is taken out of its old place in the
order, which does not move the key in question. -/
theorem mem_takeWhile_recent_iff {h : List (Event α)} (hmem : key ∈ recent h) :
    k ∈ (recent h).takeWhile (· ≠ key) ↔ k ∈ (sinceUse key h).filterMap Event.used? := by
  induction h using List.reverseRecOn with
  | nil => simp [recent] at hmem
  | append_singleton h e ih =>
    have hfront (key' : Path.Key) (he : e.used? = some key')
        (hrecent : recentAfter (recent h) e = toFront key' (recent h)) :
        k ∈ (recent (h ++ [e])).takeWhile (· ≠ key) ↔
          k ∈ (sinceUse key (h ++ [e])).filterMap Event.used? := by
      rw [recent_concat, hrecent, mem_toFront] at hmem
      rw [recent_concat, hrecent, sinceUse_concat, he, toFront]
      by_cases hkey : key' = key
      · simp [hkey]
      · have hold := hmem.resolve_left (Ne.symm hkey)
        -- taking the new first key out of its old place does not change where `key` stands
        have hfilter : ((recent h).filter (· ≠ key')).takeWhile (· ≠ key) =
            ((recent h).takeWhile (· ≠ key)).filter (· ≠ key') := by
          rw [List.takeWhile_filter]
          congr 2
          funext x
          by_cases hx : x = key' <;> simp [hx, hkey]
        rw [List.takeWhile_cons_of_pos (by simpa using hkey), hfilter, List.mem_cons,
          List.mem_filter, ih hold, if_neg (by simpa using hkey), List.filterMap_cons_some he,
          List.mem_cons]
        by_cases hk : k = key' <;> simp [hk]
    cases e with
    | set key' a => exact hfront key' rfl rfl
    | hit key' => exact hfront key' rfl rfl
    | miss key' =>
      rw [recent_concat] at hmem ⊢
      rw [sinceUse_concat, if_neg (by simp), List.filterMap_cons_none rfl]
      exact ih hmem
    | reset => simp [recent_concat, recentAfter] at hmem

/-- What is among the first of a list. -/
lemma mem_take_iff {key : Path.Key} :
    key ∈ used.take n ↔ key ∈ used ∧ (used.takeWhile (· ≠ key)).length < n := by
  induction used generalizing n with
  | nil => simp
  | cons k used ih =>
    cases n with
    | zero => simp
    | succ n =>
      by_cases hkey : k = key
      · simp [hkey]
      · simp [hkey, Ne.symm hkey, ih]

/-- **A bounded cache keeps exactly what was used last.**  Let the store of a cache drop the entry
used longest ago.  Behind any uses of the cache that began empty, something is found under a path if
and only if it was put there since everything was dropped last, and fewer other keys than may be
kept have been set or hit since the path was.  What is found is what was put there last.  And there
is never more in the cache than may be kept.

**Proof sketch.** The keys of the cache are the first of the keys used last (`keepsFirst_after`).
Those in front of a key are the ones used since it was (`mem_takeWhile_recent_iff`), each of them
once. -/
theorem get?_recent (h : store.KeepsRecent capacity entries) (n : Nat) (uses : List (Use α))
    (path : Path) :
    let c := (bounded store (store.new n)).after uses
    let events := (bounded store (store.new n)).history uses
    ((c.get? path).1.isSome = true ↔
        (∃ a, .set path.parts a ∈ sinceReset events) ∧
          ((sinceUse path.parts events).filterMap Event.used?).toFinset.card < n) ∧
      (∀ a, (c.get? path).1 = some a → lastSet? path.parts events = some a) ∧ c.size ≤ n := by
  intro c events
  have hfresh : (bounded store (store.new n)).Fresh fun state key a => (key, a) ∈ entries state :=
    .bounded h.forgets n
  have hfirst : KeepsFirst store capacity entries n (recent events) c := keepsFirst_after h n uses
  refine ⟨?_, fun a ha => hfresh.lastSet?_of_holds uses
    ((hfresh.lawful.after uses).holds_of_get?_eq_some ha), hfirst.size_le h⟩
  · rw [hfirst.isSome_get?_iff h, mem_take_iff, ← mem_recent_iff h n uses]
    refine and_congr_right fun hmem => ?_
    have hset : ((sinceUse path.parts events).filterMap Event.used?).toFinset =
        ((recent events).takeWhile (· ≠ path.parts)).toFinset := by
      ext k
      rw [List.mem_toFinset, List.mem_toFinset, mem_takeWhile_recent_iff hmem]
    have hnodup : ((recent events).takeWhile (· ≠ path.parts)).Nodup :=
      (nodup_recent events).sublist (List.takeWhile_sublist _)
    rw [hset, List.toFinset_card_of_nodup hnodup]

/-- A key that was looked for stays, and the one that was not is dropped. -/
theorem get?_recent_listed :
    let store : BoundedStore (BoundedStore.Listed Char) Char := .listed
    let uses : List (Use Char) :=
      [.set ⟨"/a"⟩ 'a', .set ⟨"/b"⟩ 'b', .get ⟨"/a"⟩, .set ⟨"/c"⟩ 'c']
    let c := (bounded store (store.new 2)).after uses
    let events := (bounded store (store.new 2)).history uses
    store.KeepsRecent BoundedStore.Listed.capacity BoundedStore.Listed.entries ∧
      ((c.get? ⟨"/a"⟩).1 = some 'a' ∧ (c.get? ⟨"/b"⟩).1 = none) ∧
      ((c.get? ⟨"/b"⟩).1.isSome = true ↔
        (∃ a, .set (Path.mk "/b").parts a ∈ sinceReset events) ∧
          ((sinceUse (Path.mk "/b").parts events).filterMap Event.used?).toFinset.card < 2) ∧
      c.size ≤ 2 := by
  intro store uses c events
  have hrecent := get?_recent (BoundedStore.listed_keepsRecent (α := Char)) 2 uses ⟨"/b"⟩
  exact ⟨BoundedStore.listed_keepsRecent, by decide +kernel, hrecent.1, hrecent.2.2⟩

end Stencil.Cache
