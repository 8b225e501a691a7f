import Stencil.Asset
import Stencil.CompileError
import Stencil.Template.Directive
import Stencil.Template.Segment

/-!
# Asset markers

A directive that names a script or a style sheet leaves a marker in the output instead of the asset.
A bundler lists the markers of a text, or takes them out, and puts the assets where it wants them.

## Main definitions

* `Stencil.AssetKind.marker` — the marker of an asset.
* `Stencil.Markers` — the paths that markers name.
* `Stencil.Markers.scan` — the markers of a text that stays as it is.
* `Stencil.Markers.strip` — the markers of a text, and the text without them.

## Design

The two readers are independent.  `scan` looks for whole markers at every position and knows only
the delimiter in which markers are written.  `strip` cuts the text into segments, so it sees a
marker only where a tag stands, and refuses tags that are not closed.
-/

set_option relaxedAutoImplicit false
set_option autoImplicit false

namespace Stencil

/-- The delimiter of markers. -/
def markerDelimiter : Char := '%'

/-- **The marker that stands for an asset** in the output. -/
def AssetKind.marker (kind : AssetKind) (path : Path) : String :=
  String.ofList (Tag.openCode.text markerDelimiter) ++ " " ++ kind.keyword ++ " " ++ path.text ++
    String.ofList (Tag.close.text markerDelimiter)

/-- **The paths that markers name,** in the order of the markers. -/
structure Markers where
  /-- Scripts. -/
  scripts : List String := []
  /-- Style sheets. -/
  styles : List String := []
  deriving DecidableEq, Repr

namespace Markers

/-- Whether no marker was found. -/
def isEmpty (m : Markers) : Bool := m.scripts.isEmpty && m.styles.isEmpty

/-- Markers with one more. -/
def record (m : Markers) (kind : AssetKind) (path : List Char) : Markers :=
  match kind with
  | .script => { m with scripts := m.scripts ++ [String.ofList path] }
  | .style => { m with styles := m.styles ++ [String.ofList path] }

/-- The kinds of markers. -/
def kinds : List AssetKind := [.script, .style]

/-! ## Looking for markers -/

/-- A text without one of the modifiers of tags at its beginning, if one is there. -/
def skipModifier : List Char → List Char
  | c :: rest => if c = '-' || c = '_' then rest else c :: rest
  | [] => []

/-- The end of a marker: white space, a modifier, the delimiter and the closing bracket. -/
def afterClose? (s : List Char) : Option (List Char) :=
  Text.dropPrefix? (Tag.close.text markerDelimiter) (skipModifier (Text.trimStart s))

/-- A marker's kind and path, and what follows the marker. -/
def marker? (_ : Option Char) : Markup.Pattern (AssetKind × List Char) := fun s =>
  match Text.dropPrefix? (Tag.openCode.text markerDelimiter) s with
  | none => none
  | some inside =>
    let inside := Text.trimStart (skipModifier inside)
    kinds.findSome? fun kind =>
      ((Text.dropPrefix? kind.keyword.toList inside).bind Directive.behindBlank?).bind fun s =>
        let isPathChar := fun c => !Text.isBlank c && c ≠ markerDelimiter
        let path := s.takeWhile isPathChar
        if path.isEmpty then none
        else (afterClose? (s.dropWhile isPathChar)).map fun behind => ((kind, path), behind)

/-- **The markers of a text.** -/
def scan (text : String) : Markers :=
  (Markup.scan marker? text.toList).foldl (fun m (kind, path) => m.record kind path) {}

/-! ## Taking markers out -/

/-- The kind and the path of the marker that a tag's content is, if it is one. -/
def ofContent? (content : List Char) : Option (AssetKind × List Char) :=
  kinds.findSome? fun kind =>
    ((Directive.afterKeyword? kind.keyword content).bind Directive.target?).map fun (path, _) =>
      (kind, path)

/-- The text of segments without their markers, and the markers.  `text` is the whole text, and
`out` and `found` are what was gathered before. -/
def stripFrom (text : String) (out : String) (found : Markers) :
    List Segment → Except CompileError (String × Markers)
  | [] => .ok (out, found)
  | s :: rest =>
    match s.tag with
    | none => stripFrom text (out ++ s.text) found rest
    | some tag =>
      if tag.isOpener then
        match rest with
        | content :: closer :: behind =>
          if closer.tag.any Tag.isCloser then
            match if tag.acceptsDirective then ofContent? content.text.toList else none with
            | some (kind, path) => stripFrom text out (found.record kind path) behind
            | none => stripFrom text (out ++ s.text) found (content :: closer :: behind)
          else .error (.unclosedTag ⟨s.text, s.offset, none, text⟩)
        | _ => .error (.unclosedTag ⟨s.text, s.offset, none, text⟩)
      else stripFrom text (out ++ s.text) found rest

/-- **A text without its markers,** and the markers.  A tag that is not closed is an error. -/
def strip (delimiter : Char) (text : String) : Except CompileError (String × Markers) :=
  (Segment.splitChecked delimiter text).bind (stripFrom text "" {})

end Markers

end Stencil
