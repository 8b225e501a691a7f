import Stencil.Component
import Stencil.Text.Blank

/-!
# Assets

The scripts, style sheets and images that a template refers to.  Scripts and style sheets are named
by directives; images are found by looking through the markup, without regard to tags: in the
sources of image elements, and in the references of elements that have a background.

## Main definitions

* `Stencil.Asset`, `Stencil.Assets` — one asset, and the three lists of a template.
* `Stencil.Markup` — the patterns that images are found by.
* `Stencil.Collector` — the assets found so far in one pass over a template.

## Design

A pattern is a function from the text to what it captures and the text behind it.  `Markup.scan`
tries a pattern at every position from left to right and goes on behind each hit.  No pattern needs
to take back a choice: every repetition stops at a character that cannot begin what comes next.
-/

set_option relaxedAutoImplicit false
set_option autoImplicit false

namespace Stencil

/-- **An asset.** -/
structure Asset where
  /-- The component that the reference was resolved through. -/
  component : Option String
  /-- The reference as written. -/
  name : String
  /-- Where it leads. -/
  path : Path
  deriving DecidableEq, Repr

/-- **The assets of a template.** -/
structure Assets where
  /-- Scripts. -/
  scripts : List Asset := []
  /-- Style sheets. -/
  styles : List Asset := []
  /-- Images. -/
  images : List Asset := []
  deriving DecidableEq, Repr

namespace Assets

/-- The assets of one template and then those of another. -/
def append (a b : Assets) : Assets :=
  ⟨a.scripts ++ b.scripts, a.styles ++ b.styles, a.images ++ b.images⟩

/-- Whether there is no asset at all. -/
def isEmpty (a : Assets) : Bool := a.scripts.isEmpty && a.styles.isEmpty && a.images.isEmpty

end Assets

/-- The kinds of assets that directives name. -/
inductive AssetKind where
  /-- A script. -/
  | script
  /-- A style sheet. -/
  | style
  deriving DecidableEq, Repr

/-- The keyword of the marker that stands for an asset in the output. -/
def AssetKind.keyword : AssetKind → String
  | script => "referjs"
  | style => "refercss"

/-! ## Patterns in markup -/

namespace Markup

/-- A pattern: what it captures at the beginning of a text, and the text behind it. -/
abbrev Pattern (α : Type) := List Char → Option (α × List Char)

/-- The captures of a pattern from left to right.  The next `skip` characters belong to the hit
found last.  `before` is the character before the text. -/
def scanFrom {α : Type} (pattern : Option Char → Pattern α) (before : Option Char) :
    Nat → List Char → List α
  | _, [] => []
  | skip + 1, c :: rest => scanFrom pattern (some c) skip rest
  | 0, c :: rest =>
    match pattern before (c :: rest) with
    | some (capture, behind) =>
      capture :: scanFrom pattern (some c) (rest.length - behind.length) rest
    | none => scanFrom pattern (some c) 0 rest

/-- The captures of a pattern from left to right. -/
def scan {α : Type} (pattern : Option Char → Pattern α) (s : List Char) : List α :=
  scanFrom pattern none 0 s

/-- A quoted text, and the text behind the closing quote. -/
def quoted? (quote : Char) : Pattern (List Char)
  | [] => none
  | c :: rest =>
    if c = quote then
      let inside := rest.takeWhile (· ≠ quote)
      match rest.dropWhile (· ≠ quote) with
      | _ :: behind => some (inside, behind)
      | [] => none
    else none

/-- A run of characters of a class, not empty. -/
def run? (allowed : Char → Bool) : Pattern (List Char) := fun s =>
  let run := s.takeWhile allowed
  if run.isEmpty then none else some (run, s.dropWhile allowed)

/-- A value in one kind of quotes or the other, or bare.  A bare value ends at white space, at a
quote and at the closing character. -/
def value? (closer : Char) : Pattern (List Char) := fun s =>
  ((quoted? '"' s).orElse fun _ => quoted? '\'' s).orElse fun _ =>
    run? (fun c => !Text.isBlank c && c ≠ '"' && c ≠ '\'' && c ≠ closer) s

/-- An attribute's value, behind the name of the attribute. -/
def attribute? : Pattern (List Char) := fun s =>
  match Text.trimStart s with
  | '=' :: rest => value? '>' (Text.trimStart rest)
  | _ => none

/-- An image element, up to its closing bracket. -/
def image? (_ : Option Char) : Pattern (List Char) := fun s =>
  match Text.dropFolded? "<img".toList s with
  | none => none
  | some rest =>
    if !Text.atWordEnd rest then none
    else
      match rest.dropWhile (· ≠ '>') with
      | _ :: behind => some (s.take (s.length - behind.length), behind)
      | [] => none

/-- A source attribute, which no word character and no hyphen stands before. -/
def source? (before : Option Char) : Pattern (List Char) := fun s =>
  if before.all fun c => !Text.isWordChar c && c ≠ '-' then
    (Text.dropFolded? "src".toList s).bind attribute?
  else none

/-- A deferred source attribute, which no word character stands before. -/
def deferredSource? (before : Option Char) : Pattern (List Char) := fun s =>
  if before.all fun c => !Text.isWordChar c then
    (Text.dropFolded? "data-src".toList s).bind attribute?
  else none

/-- An element that mentions a background, up to its closing bracket. -/
def backgroundElement? (_ : Option Char) : Pattern (List Char)
  | '<' :: rest =>
    let inside := rest.takeWhile fun c => c ≠ '<' && c ≠ '>'
    match rest.dropWhile fun c => c ≠ '<' && c ≠ '>' with
    | '>' :: behind =>
      if Text.occursFolded "background".toList inside then
        some ('<' :: inside ++ ['>'], behind)
      else none
    | _ => none
  | _ => none

/-- A reference in a style, `url(...)`. -/
def url? (_ : Option Char) : Pattern (List Char) := fun s =>
  match Text.dropFolded? "url(".toList s with
  | none => none
  | some rest =>
    match value? ')' (Text.trimStart rest) with
    | none => none
    | some (capture, rest) =>
      match Text.trimStart rest with
      | ')' :: behind => some (capture, behind)
      | _ => none

/-- The image references of a text, in the order in which they are found: first those of image
elements, then those of elements with a background. -/
def imageReferences (s : List Char) : List String :=
  let sources := (scan image? s).flatMap fun element =>
    (scan source? element).head?.toList ++ (scan deferredSource? element).head?.toList
  let backgrounds := (scan backgroundElement? s).flatMap fun element => scan url? element
  (sources ++ backgrounds).map fun capture => String.ofList (Text.trim capture)

end Markup

/-! ## Collecting -/

/-- **The assets found so far** in one pass over a template. -/
structure Collector where
  /-- The component that owns the template. -/
  component : Option Component := none
  /-- The path of the template. -/
  sourcePath : Option Path := none
  /-- The assets. -/
  assets : Assets := {}
  /-- The scripts that this pass has named. -/
  seenScripts : List String := []
  /-- The style sheets that this pass has named. -/
  seenStyles : List String := []
  /-- The images that this pass has named. -/
  seenImages : List String := []

namespace Collector

/-- Where a reference leads.  A component answers for the references of its templates.  Without
one, a reference is taken from the template's directory, unless it names a network resource and is
to be kept as it is. -/
def describe (c : Collector) (keepOnline : Bool) (reference : String) : Asset :=
  match c.component with
  | some owner => ⟨some owner.name, reference, owner.resolveResource reference⟩
  | none =>
    if keepOnline && Path.isOnline reference then ⟨none, reference, ⟨reference⟩⟩
    else ⟨none, reference, Path.resolveResource reference c.sourcePath⟩

/-- A script or style sheet that a directive names, recorded once in a pass; and its path. -/
def reference (c : Collector) (kind : AssetKind) (name : String) : Collector × Path :=
  let asset := c.describe true name
  let c := match kind with
    | .script =>
      if c.seenScripts.contains name then c
      else { c with
        seenScripts := name :: c.seenScripts
        assets := { c.assets with scripts := c.assets.scripts ++ [asset] } }
    | .style =>
      if c.seenStyles.contains name then c
      else { c with
        seenStyles := name :: c.seenStyles
        assets := { c.assets with styles := c.assets.styles ++ [asset] } }
  (c, asset.path)

/-- An image, recorded once in a pass.  Empty references and network resources are passed
over. -/
def recordImage (c : Collector) (name : String) : Collector :=
  if name.isEmpty || Path.isOnline name || c.seenImages.contains name then c
  else { c with
    seenImages := name :: c.seenImages
    assets := { c.assets with images := c.assets.images ++ [c.describe false name] } }

/-- The images of a text. -/
def scanImages (c : Collector) (text : String) : Collector :=
  (Markup.imageReferences text.toList).foldl recordImage c

/-- The assets of an included template.  They are taken over as they are. -/
def merge (c : Collector) (nested : Assets) : Collector :=
  { c with assets := c.assets.append nested }

end Collector

end Stencil
