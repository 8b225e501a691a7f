import Stencil.Path

/-!
# Caches

What was made from the template at a path is kept under that path, either without limit or in a
store of limited capacity.

## Main definitions

* `Stencil.BoundedStore` — the operations of a store of limited capacity.
* `Stencil.BoundedStore.Forgets` — a store that only ever drops entries of its own accord.
* `Stencil.BoundedStore.KeepsRecent` — a store that drops the entry whose last use is longest ago.
* `Stencil.BoundedStore.listed` — such a store, on a list.
* `Stencil.Cache` — a cache, with its operations `get?`, `insert`, `clear` and `size`.

## Main results

* `BoundedStore.KeepsRecent.forgets` — a store that drops the entry used longest ago only ever drops
  entries.
* `BoundedStore.listed_keepsRecent` — the store on a list drops the entry used longest ago.

## Design

The store comes from elsewhere, so a cache is made for any store, and what is relied on is said by
`Forgets` and `KeepsRecent`.  Either speaks of the entries of a state through a parameter and leaves
open how a state keeps them.  Keys are the parts of a path, so that the spellings of one path share
an entry; double dots are not resolved.
-/

set_option relaxedAutoImplicit false
set_option autoImplicit false

namespace Stencil

/-- What is kept under a path is found by its parts. -/
abbrev Path.Key := List Path.Part

/-! ## Stores of limited capacity -/

/-- **The operations of a store of limited capacity,** on states of type `σ`. -/
structure BoundedStore (σ α : Type) where
  /-- The empty store of a capacity. -/
  new : Nat → σ
  /-- What is stored under a key, and the store after this use of it. -/
  get? : σ → Path.Key → Option α × σ
  /-- A store with something more under a key. -/
  insert : σ → Path.Key → α → σ
  /-- A store without its entries. -/
  clear : σ → σ
  /-- The number of entries. -/
  size : σ → Nat

namespace BoundedStore

variable {σ α : Type}

/-- Entries without that of a key. -/
def without (key : Path.Key) (entries : List (Path.Key × α)) : List (Path.Key × α) :=
  entries.filter (·.1 ≠ key)

/-- Entries with one put in front of the others, in place of any other of its key. -/
def putFirst (key : Path.Key) (a : α) (entries : List (Path.Key × α)) : List (Path.Key × α) :=
  (key, a) :: without key entries

/-- Entries without the last of them, if there are more than may be kept. -/
def trim (capacity : Nat) (entries : List (Path.Key × α)) : List (Path.Key × α) :=
  if capacity < entries.length then entries.dropLast else entries

/-- **A store that only ever drops entries of its own accord:** under a key it answers nothing or
what was put there last.  `Held` says which entries a state may answer. -/
structure Forgets (store : BoundedStore σ α) (Held : σ → Path.Key → α → Prop) : Prop where
  /-- There is nothing in a new store. -/
  new : ∀ n key a, ¬ Held (store.new n) key a
  /-- What is found was held. -/
  found : ∀ {state key a}, (store.get? state key).1 = some a → Held state key a
  /-- Looking for something adds nothing. -/
  get? : ∀ {state key k a}, Held (store.get? state key).2 k a → Held state k a
  /-- What is put under a key is all that is held there. -/
  insert : ∀ {state key a k b}, Held (store.insert state key a) k b →
    k = key ∧ b = a ∨ k ≠ key ∧ Held state k b
  /-- There is nothing in a store that was cleared. -/
  clear : ∀ state key a, ¬ Held (store.clear state) key a

/-- **A store that drops the entry whose last use is longest ago:** an entry comes to the front when
it is put in or found, and when there are then more than may be kept the last one is dropped.
`capacity` and `entries` say what a state may keep and what it does, the entry used last first. -/
structure KeepsRecent (store : BoundedStore σ α) (capacity : σ → Nat)
    (entries : σ → List (Path.Key × α)) : Prop where
  /-- A new store may keep as much as it was made for. -/
  capacity_new : ∀ n, capacity (store.new n) = n
  /-- Looking for something does not change how much may be kept. -/
  capacity_get? : ∀ state key, capacity (store.get? state key).2 = capacity state
  /-- Putting something in does not change how much may be kept. -/
  capacity_insert : ∀ state key a, capacity (store.insert state key a) = capacity state
  /-- Clearing does not change how much may be kept. -/
  capacity_clear : ∀ state, capacity (store.clear state) = capacity state
  /-- There is nothing in a new store. -/
  entries_new : ∀ n, entries (store.new n) = []
  /-- What is found is the entry of the key. -/
  fst_get? : ∀ state key, (store.get? state key).1 = (entries state).lookup key
  /-- An entry that is found comes to the front. -/
  entries_get?_of_some : ∀ {state key a}, (store.get? state key).1 = some a →
    entries (store.get? state key).2 = putFirst key a (entries state)
  /-- A miss leaves the entries as they are. -/
  entries_get?_of_none : ∀ {state key}, (store.get? state key).1 = none →
    entries (store.get? state key).2 = entries state
  /-- An entry that is put in comes to the front, and the last one is dropped if it is too much. -/
  entries_insert : ∀ state key a,
    entries (store.insert state key a) = trim (capacity state) (putFirst key a (entries state))
  /-- There is nothing in a store that was cleared. -/
  entries_clear : ∀ state, entries (store.clear state) = []
  /-- The number of entries is told rightly. -/
  size_eq : ∀ state, store.size state = (entries state).length

variable {key k : Path.Key} {a b : α} {entries : List (Path.Key × α)}

/-- What stands among entries when one was put in front. -/
@[simp] theorem mem_putFirst :
    (k, b) ∈ putFirst key a entries ↔ k = key ∧ b = a ∨ k ≠ key ∧ (k, b) ∈ entries := by
  simp [putFirst, without, and_comm]

/-- What is too much at the end is dropped, and nothing is added. -/
theorem trim_subset (n : Nat) : trim n entries ⊆ entries := by
  unfold trim
  split
  · exact List.dropLast_subset entries
  · exact List.Subset.refl _

/-- What is found under a key is an entry. -/
theorem mem_of_lookup (h : entries.lookup key = some a) : (key, a) ∈ entries := by
  obtain ⟨front, rest, rfl, -⟩ := List.lookup_eq_some_iff.1 h
  simp

/-- A store that drops the entry used longest ago only ever drops entries. -/
theorem KeepsRecent.forgets {store : BoundedStore σ α} {capacity : σ → Nat}
    {entries : σ → List (Path.Key × α)} (h : store.KeepsRecent capacity entries) :
    store.Forgets fun state key a => (key, a) ∈ entries state where
  new n key a := by simp [h.entries_new]
  found {state key a} hfound := by
    rw [h.fst_get?] at hfound
    exact mem_of_lookup hfound
  get? {state key k a} hheld := by
    cases hget : (store.get? state key).1 with
    | none => rwa [h.entries_get?_of_none hget] at hheld
    | some b =>
      rw [h.entries_get?_of_some hget, mem_putFirst] at hheld
      obtain ⟨rfl, rfl⟩ | ⟨-, hold⟩ := hheld
      · rw [h.fst_get?] at hget
        exact mem_of_lookup hget
      · exact hold
  insert {state key a k b} hheld := by
    rw [h.entries_insert] at hheld
    exact mem_putFirst.1 (trim_subset _ hheld)
  clear state key a := by simp [h.entries_clear]

/-- Entries of a limited number, the one used last first. -/
structure Listed (α : Type) where
  /-- How many entries may be kept. -/
  capacity : Nat
  /-- The entries. -/
  entries : List (Path.Key × α) := []

/-- **A store on a list.** -/
def listed : BoundedStore (Listed α) α where
  new n := { capacity := n }
  get? s key :=
    match s.entries.lookup key with
    | some a => (some a, { s with entries := putFirst key a s.entries })
    | none => (none, s)
  insert s key a := { s with entries := trim s.capacity (putFirst key a s.entries) }
  clear s := { s with entries := [] }
  size s := s.entries.length

/-- The store on a list drops the entry used longest ago. -/
theorem listed_keepsRecent :
    (listed : BoundedStore (Listed α) α).KeepsRecent Listed.capacity Listed.entries where
  capacity_new _ := rfl
  capacity_get? state key := by
    simp only [listed]
    split <;> rfl
  capacity_insert _ _ _ := rfl
  capacity_clear _ := rfl
  entries_new _ := rfl
  fst_get? state key := by
    simp only [listed]
    split <;> simp [*]
  entries_get?_of_some {state key a} h := by
    simp only [listed] at h ⊢
    split at h
    · cases h
      rfl
    · cases h
  entries_get?_of_none {state key} h := by
    simp only [listed] at h ⊢
    split at h
    · cases h
    · rfl
  entries_insert _ _ _ := rfl
  entries_clear _ := rfl
  size_eq _ := rfl

end BoundedStore

/-! ## Caches -/

/-- **A cache.** -/
inductive Cache (σ α : Type) where
  /-- Everything is kept. -/
  | unbounded (entries : List (Path.Key × α))
  /-- A store of limited capacity decides. -/
  | bounded (store : BoundedStore σ α) (state : σ)

namespace Cache

variable {σ α : Type}

/-- What is kept under a path, and the cache after this use of it. -/
def get? (c : Cache σ α) (path : Path) : Option α × Cache σ α :=
  match c with
  | unbounded entries => (entries.lookup path.parts, c)
  | bounded store state =>
    let (found, state) := store.get? state path.parts
    (found, bounded store state)

/-- A cache that keeps something under a path. -/
def insert (c : Cache σ α) (path : Path) (a : α) : Cache σ α :=
  match c with
  | unbounded entries => unbounded (BoundedStore.putFirst path.parts a entries)
  | bounded store state => bounded store (store.insert state path.parts a)

/-- A cache without its entries. -/
def clear : Cache σ α → Cache σ α
  | unbounded _ => unbounded []
  | bounded store state => bounded store (store.clear state)

/-- The number of entries. -/
def size : Cache σ α → Nat
  | unbounded entries => entries.length
  | bounded store state => store.size state

end Cache

end Stencil
