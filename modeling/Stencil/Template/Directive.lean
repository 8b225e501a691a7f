import Stencil.Text.Blank
import Stencil.Text.Search

/-!
# Directives

A directive is an instruction to the compiler that forms the whole content of a code tag, such as
`<% include header %>`.  It is led by a keyword, which white space sets off from what follows.

## Main definitions

* `Stencil.Directive` — the six directives.
* `Stencil.Directive.parse?` — the directive that a tag's content is, if it is one.

## Design

Every form begins with optional white space and its keyword.  `afterKeyword?` gives what follows
them, `target?` the run of non-blank characters that stands there behind white space, and what is
behind that run are the parameters.
-/

set_option relaxedAutoImplicit false
set_option autoImplicit false

namespace Stencil

/-- **A directive.** -/
inductive Directive where
  /-- `include path params` puts another template here. -/
  | includeFile (path : String) (params : Option String)
  /-- `includeModule name params` puts the main template of a component here. -/
  | includeComponent (name : String) (params : Option String)
  /-- `includeJs reference` refers to a script. -/
  | script (reference : String)
  /-- `includeCss reference` refers to a style sheet. -/
  | style (reference : String)
  /-- `includeAt params` begins a block that is extracted from the output. -/
  | beginCapture (params : String)
  /-- `endAt` ends that block. -/
  | endCapture
  deriving DecidableEq, Repr

namespace Directive

/-- What follows a keyword that at most white space stands before. -/
def afterKeyword? (keyword : String) (content : List Char) : Option (List Char) :=
  Text.dropPrefix? keyword.toList (Text.trimStart content)

/-- The text behind leading white space, of which there is some. -/
def behindBlank? (s : List Char) : Option (List Char) :=
  if (s.takeWhile Text.isBlank).isEmpty then none else some (Text.trimStart s)

/-- The run of non-blank characters behind white space, and what follows the run. -/
def target? (s : List Char) : Option (List Char × List Char) :=
  match behindBlank? s with
  | none => none
  | some inside =>
    let run := inside.takeWhile (fun c => !Text.isBlank c)
    if run.isEmpty then none else some (run, inside.dropWhile (fun c => !Text.isBlank c))

/-- Parameters, unless there is nothing but white space. -/
def params? (s : List Char) : Option String :=
  let trimmed := Text.trim s
  if trimmed.isEmpty then none else some (String.ofList trimmed)

/-- The parameters of an extraction: line breaks and tabs inside them are dropped. -/
def captureParams (s : List Char) : String :=
  String.ofList (Text.trim (s.filter fun c => c ≠ '\r' && c ≠ '\n' && c ≠ '\t'))

/-- A directive with a target and parameters. -/
def withParams? (keyword : String) (make : String → Option String → Directive)
    (content : List Char) : Option Directive :=
  ((afterKeyword? keyword content).bind target?).map fun (run, rest) =>
    make (String.ofList run) (params? rest)

/-- A directive with a target, whatever follows it. -/
def withReference? (keyword : String) (make : String → Directive)
    (content : List Char) : Option Directive :=
  ((afterKeyword? keyword content).bind target?).map fun (run, _) => make (String.ofList run)

/-- The beginning of an extraction. -/
def parseBegin? (content : List Char) : Option Directive :=
  ((afterKeyword? "includeAt" content).bind behindBlank?).map fun rest =>
    .beginCapture (captureParams rest)

/-- The end of an extraction. -/
def parseEnd? (content : List Char) : Option Directive :=
  match afterKeyword? "endAt" content with
  | some rest => if Text.allBlank rest then some .endCapture else none
  | none => none

/-- **The directive that the content of a code tag is,** if it is one. -/
def parse? (content : String) : Option Directive :=
  let s := content.toList
  [withParams? "include" .includeFile, withParams? "includeModule" .includeComponent,
    withReference? "includeJs" .script, withReference? "includeCss" .style,
    parseBegin?, parseEnd?].findSome? fun parse => parse s

end Directive

end Stencil
