import Stencil.Path

/-!
# Libraries of templates

Where included templates are read from.

## Main definitions

* `Stencil.Library` — templates by path, and where the references between them lead.
* `Stencil.Templates` — templates kept in memory, and the library that they make up.
* `Stencil.Templates.unvisited` — how many templates there are that a chain of includes has not met.

## Main results

* `Templates.unvisited_lt` — a chain that goes on to a template it has not met leaves fewer unmet.

## Design

A library reads a path as it is spelled and may fail with a reason.  Nothing says that it is finite:
includes need not end.  Templates in memory are told apart by the normal forms of their paths, and
there are finitely many.
-/

set_option relaxedAutoImplicit false
set_option autoImplicit false

namespace Stencil

/-- **Templates by path.** -/
structure Library where
  /-- The text of a template, or why it cannot be read. -/
  read : Path → Except String String
  /-- Where a reference in a template leads, given the path of the template. -/
  resolve : String → Path → Path := fun reference current =>
    (Path.resolveInclude reference current).path

/-- A text without the byte-order mark that it may begin with. -/
def Text.withoutMark (s : String) : String :=
  match s.toList with
  | '\uFEFF' :: rest => String.ofList rest
  | _ => s

/-! ## Templates in memory -/

/-- **Templates kept in memory.** -/
structure Templates where
  /-- The templates, the one added last first. -/
  entries : List (Path.Normal × String) := []

namespace Templates

/-- Templates with one more, which takes the place of any other of its path. -/
def add (t : Templates) (path : Path) (text : String) : Templates :=
  ⟨(path.toNormal, text) :: t.entries⟩

/-- Templates added one after the other. -/
def ofList (entries : List (Path × String)) : Templates :=
  entries.foldl (fun t (path, text) => t.add path text) {}

/-- The text of a template. -/
def find? (t : Templates) (path : Path.Normal) : Option String := t.entries.lookup path

/-- A template that was added is found. -/
theorem find?_add (t : Templates) (path : Path) (text : String) :
    (t.add path text).find? path.toNormal = some text := by
  simp [find?, add]

/-- The text of a template, or the reason why there is none. -/
def read (t : Templates) (path : Path) : Except String String :=
  match t.find? path.toNormal with
  | some text => .ok (Text.withoutMark text)
  | none => .error ("no template registered at " ++ path.text)

/-- The library that templates in memory make up. -/
def library (t : Templates) : Library where
  read := t.read

/-- The number of templates that a chain of includes has not met. -/
def unvisited (t : Templates) (chain : List Path.Normal) : Nat :=
  ((t.entries.map Prod.fst).filter (· ∉ chain)).length

/-- What can be read is one of the templates. -/
theorem mem_of_read {t : Templates} {path : Path} {text : String} (h : t.read path = .ok text) :
    path.toNormal ∈ t.entries.map Prod.fst := by
  unfold read at h
  split at h
  · next found hfound =>
    obtain ⟨front, rest, hentries, -⟩ := List.lookup_eq_some_iff.1 hfound
    simp [hentries]
  · cases h

/-- A chain that goes on to a template it has not met leaves fewer unmet. -/
theorem unvisited_lt {t : Templates} {chain : List Path.Normal} {path : Path} {text : String}
    (hread : t.read path = .ok text) (hnew : path.toNormal ∉ chain) :
    t.unvisited (chain ++ [path.toNormal]) < t.unvisited chain := by
  have hmem : path.toNormal ∈ (t.entries.map Prod.fst).filter (· ∉ chain) := by
    simpa [hnew] using mem_of_read hread
  have hsplit : (t.entries.map Prod.fst).filter (· ∉ chain ++ [path.toNormal]) =
      ((t.entries.map Prod.fst).filter (· ∉ chain)).filter (· ≠ path.toNormal) := by
    rw [List.filter_filter]
    apply List.filter_congr
    intro a _
    simp [Bool.and_comm]
  unfold unvisited
  rw [hsplit]
  exact List.length_filter_lt_length_iff_exists.2 ⟨path.toNormal, hmem, by simp⟩

end Templates

end Stencil
