import Stencil.Library

/-!
# File trees

Text files by path.  A directory is there when a file lies in it or when it is known by itself; the
working directory and the directories above it always are there.

## Main definitions

* `Stencil.Files` — a tree of text files.
* `Stencil.FileFault` — why a file cannot be read or written.
* `Stencil.Files.read`, `write` — reading and writing a path as it is spelled.
* `Stencil.Files.library` — the templates in a tree.

## Design

A path is walked part by part from the working directory, so every directory that it names on the
way has to be there, even when a double dot leaves it again.
-/

set_option relaxedAutoImplicit false
set_option autoImplicit false

namespace Stencil

/-- **Why a file cannot be read or written.** -/
inductive FileFault where
  /-- There is no such file. -/
  | notFound
  /-- A file stands where a directory should. -/
  | notDirectory
  /-- A directory stands where a file should. -/
  | isDirectory
  /-- The path or a name in it is too long. -/
  | nameTooLong
  /-- The path holds a character that no path can hold. -/
  | invalidName
  deriving DecidableEq, Repr

/-- The wording of a fault. -/
def FileFault.message : FileFault → String
  | notFound => "No such file or directory (os error 2)"
  | notDirectory => "Not a directory (os error 20)"
  | isDirectory => "Is a directory (os error 21)"
  | nameTooLong => "File name too long (os error 36)"
  | invalidName => "file name contained an unexpected NUL byte"

/-- **A tree of text files.** -/
structure Files where
  /-- The files, the one written last first. -/
  entries : List (Path.Normal × String) := []
  /-- Directories that are there whether a file lies in them or not. -/
  directories : List Path.Normal := []

namespace Files

/-- A tree of files given by path. -/
def ofList (files : List (Path × String)) : Files :=
  { entries := files.map fun (path, text) => (path.toNormal, text) }

/-- The places on the way along some parts, the last one first. -/
def waypoints (parts : List Path.Part) : List Path.Normal :=
  parts.foldl (fun places part => (places.headD {}).push part :: places) [{}]

/-- A tree with a file that was found at a path, and with every directory on the way to it. -/
def discover (f : Files) (path : Path) (text : String) : Files :=
  { entries := (path.toNormal, text) :: f.entries
    directories := waypoints path.parts.dropLast ++ f.directories }

/-- The text of the file at a place. -/
def find? (f : Files) (place : Path.Normal) : Option String := f.entries.lookup place

/-- Whether one place lies below another. -/
def isBelow (above below : Path.Normal) : Bool :=
  above.absolute == below.absolute && above.ups == below.ups &&
    above.names.length < below.names.length && above.names.isSuffixOf below.names

/-- Whether a place is a directory. -/
def isDirectory (f : Files) (place : Path.Normal) : Bool :=
  place.names.isEmpty || f.directories.contains place ||
    f.entries.any fun (path, _) => isBelow place path

/-- The number of bytes that a name may take up. -/
def nameLimit : Nat := 255

/-- The number of bytes that a path may take up. -/
def pathLimit : Nat := 4095

/-- Whether a part of a path is a name that no file can have, since it is too long. -/
def isLongName : Path.Part → Bool
  | .name s => nameLimit < (String.ofList s).utf8ByteSize
  | _ => false

/-- The place that parts lead to from a directory.  The last of them need not be there. -/
def walk (f : Files) (place : Path.Normal) : List Path.Part → Except FileFault Path.Normal
  | [] => .ok place
  | part :: rest =>
    let next := place.push part
    if isLongName part then .error .nameTooLong
    else if rest.isEmpty || f.isDirectory next then walk f next rest
    else if (f.find? next).isSome then .error .notDirectory
    else .error .notFound

/-- Whether a path can only name a directory, since a separator or a single dot ends it. -/
def namesDirectory (path : Path) : Bool :=
  match path.text.toList.reverse with
  | '/' :: _ | '.' :: '/' :: _ => true
  | _ => false

/-- The place that a path leads to. -/
def locate (f : Files) (path : Path) : Except FileFault Path.Normal :=
  if path.text.isEmpty then .error .notFound
  else if path.text.toList.contains (Char.ofNat 0) then .error .invalidName
  else if pathLimit < path.text.utf8ByteSize then .error .nameTooLong
  else f.walk {} path.parts

/-- **The text of a file.** -/
def read (f : Files) (path : Path) : Except FileFault String :=
  match f.locate path with
  | .error e => .error e
  | .ok place =>
    if f.isDirectory place then .error .isDirectory
    else
      match f.find? place with
      | none => .error .notFound
      | some text => if namesDirectory path then .error .notDirectory else .ok text

/-- **A tree with a file written.** -/
def write (f : Files) (path : Path) (text : String) : Except FileFault Files :=
  match f.locate path with
  | .error e => .error e
  | .ok place =>
    if f.isDirectory place || namesDirectory path then .error .isDirectory
    else .ok { f with entries := (place, text) :: f.entries.filter (·.1 ≠ place) }

/-! ## Templates -/

/-- The text of a template in a tree. -/
def readTemplate (f : Files) (path : Path) : Except String String :=
  ((f.read path).map Text.withoutMark).mapError FileFault.message

/-- **The templates in a tree.** -/
def library (f : Files) : Library where
  read := f.readTemplate

end Files

end Stencil
