import Stencil.Text.Search

/-!
# Paths

File names as written in templates and on the command line.  A path is a text whose meaning is its
list of *parts*: repeated separators and inner single dots carry no meaning, so `a//b` and `a/./b`
are one path in two spellings.  Nothing here looks at a disk.

## Main definitions

* `Stencil.Path`, `Stencil.Path.parts` — a path and its parts.
* `Stencil.Path.same` — two spellings of one path.
* `Stencil.Path.parent?`, `join`, `fileName?`, `extension?` — taking paths apart and together.
* `Stencil.Path.Normal`, `Stencil.Path.toNormal` — the normal form of a path: no single dot, and
  double dots only in front of a relative path.
* `Stencil.Path.normalize` — the path spelled as its normal form.
* `Stencil.Path.resolveInclude`, `resolveResource` — where a reference in a template leads.
* `Stencil.Path.isOnline` — references that name a network resource.

## Design

The normal form is a value of its own: whether the path is absolute, how many steps it goes up, and
the names it then goes down.  It is a fold over the parts, and it is what tells templates apart;
its spelling is computed only to be shown.
-/

set_option relaxedAutoImplicit false
set_option autoImplicit false

namespace Stencil

/-- **A path,** as it is spelled. -/
structure Path where
  /-- The spelling. -/
  text : String
  deriving DecidableEq, Inhabited, Repr

namespace Path

/-- A part of a path. -/
inductive Part where
  /-- The separator that begins an absolute path. -/
  | root
  /-- A single dot; it counts only at the very beginning of a relative path. -/
  | here
  /-- A double dot. -/
  | up
  /-- The name of a file or directory. -/
  | name (text : List Char)
  deriving DecidableEq, Repr

/-! ## Parts -/

/-- The part that a stretch between two separators stands for; an empty stretch and a single
dot inside the path stand for none. -/
def Part.ofStretch? (s : List Char) : Option Part :=
  if s = [] ∨ s = ['.'] then none
  else if s = ['.', '.'] then some .up
  else some (.name s)

/-- The front of a spelling, and the rest: the root's separator, or a single dot that begins a
relative path, is set apart because it carries meaning there and nowhere else. -/
def splitFront : List Char → List Char × List Char
  | '/' :: rest => (['/'], rest)
  | '.' :: '/' :: rest => (['.'], '/' :: rest)
  | ['.'] => (['.'], [])
  | s => ([], s)

/-- The part that the front of a spelling stands for. -/
def Part.ofFront? (front : List Char) : Option Part :=
  if front = ['/'] then some .root else if front = ['.'] then some .here else none

/-- The parts of a spelling. -/
def partsOf (s : List Char) : List Part :=
  let (front, body) := splitFront s
  (Part.ofFront? front).toList ++ (Text.splitOn ['/'] body).filterMap Part.ofStretch?

/-- **The parts of a path.** -/
def parts (p : Path) : List Part := partsOf p.text.toList

/-- **Two spellings of one path.** -/
def same (p q : Path) : Bool := p.parts = q.parts

/-- Whether a path begins at the root. -/
def isAbsolute (p : Path) : Bool := p.text.toList.head? = some '/'

/-! ## Taking apart -/

/-- **The path one level up;** none for the root and for the empty path.  The last stretch that
stands for a part is cut off, with the separators and single dots around it. -/
def parent? (p : Path) : Option Path :=
  let (front, body) := splitFront p.text.toList
  let isIdle := fun stretch => (Part.ofStretch? stretch).isNone
  match (Text.splitOn ['/'] body).reverse.dropWhile isIdle with
  | _ :: above =>
    let kept := (above.dropWhile isIdle).reverse
    some ⟨String.ofList (front ++ List.intercalate ['/'] kept)⟩
  | [] => if front = ['.'] then some ⟨""⟩ else none

/-- **The name of the file,** when the path ends in a name. -/
def fileName? (p : Path) : Option (List Char) :=
  match p.parts.getLast? with
  | some (.name s) => some s
  | _ => none

/-- **What follows the last dot of a file name.**  A name whose only dot comes first has no
extension; one that ends in a dot has an empty extension. -/
def extension? (p : Path) : Option (List Char) :=
  match p.fileName? with
  | none => none
  | some s =>
    let after := (s.reverse.takeWhile (· ≠ '.')).reverse
    if s.length ≤ after.length + 1 then none else some after

/-! ## Putting together -/

/-- **A reference taken from a directory.**  An absolute reference stands for itself. -/
def join (base : Path) (reference : String) : Path :=
  let r := reference.toList
  let b := base.text.toList
  if r.head? = some '/' then ⟨reference⟩
  else if b = [] ∨ b.getLast? = some '/' then ⟨base.text ++ reference⟩
  else ⟨base.text ++ "/" ++ reference⟩

/-! ## Normal form -/

/-- **A path in normal form.** -/
structure Normal where
  /-- Whether the path begins at the root. -/
  absolute : Bool := false
  /-- How many steps a relative path goes up. -/
  ups : Nat := 0
  /-- The names it then goes down, the last one first. -/
  names : List (List Char) := []
  deriving DecidableEq, Repr

/-- One more part.  A double dot takes back the name before it; with no name left it is dropped
at the root and counted otherwise. -/
def Normal.push (n : Normal) : Part → Normal
  | .root => { absolute := true }
  | .here => n
  | .up =>
    match n.names with
    | _ :: rest => { n with names := rest }
    | [] => if n.absolute then n else { n with ups := n.ups + 1 }
  | .name s => { n with names := s :: n.names }

/-- The spelling of a normal form. -/
def Normal.spelling (n : Normal) : List Char :=
  (if n.absolute then ['/'] else []) ++
    List.intercalate ['/'] (List.replicate n.ups ['.', '.'] ++ n.names.reverse)

/-- The path that a normal form spells. -/
def Normal.path (n : Normal) : Path := ⟨String.ofList n.spelling⟩

/-- **The normal form of a path.** -/
def toNormal (p : Path) : Normal := p.parts.foldl Normal.push {}

/-- **The path in normal spelling.** -/
def normalize (p : Path) : Path := p.toNormal.path

/-! ## References -/

/-- The extension that an include reference without one is given. -/
def includeExtension : String := ".ejs"

/-- **Where an include reference leads:** taken from the directory of the template that mentions it,
with the usual extension when it has none. -/
def resolveInclude (reference : String) (current : Path) : Normal :=
  let base := current.parent?.getD ⟨"."⟩
  let joined := base.join reference
  let full := if (Path.mk reference).extension?.isNone then joined.text ++ includeExtension
    else joined.text
  toNormal ⟨full⟩

/-- **Where an asset reference leads:** taken from the directory of the template that mentions it;
without such a template it stays relative. -/
def resolveResource (reference : String) (current : Option Path) : Path :=
  match current.bind parent? with
  | some base => (base.join reference).normalize
  | none => normalize ⟨reference⟩

/-- The schemes of network references. -/
def onlineSchemes : List String := ["svn:", "ftp:", "http:", "https:"]

/-- **Whether a reference names a network resource,** whatever the case of its scheme. -/
def isOnline (reference : String) : Bool :=
  onlineSchemes.any fun scheme => (Text.dropFolded? scheme.toList reference.toList).isSome

end Path

end Stencil
