import Stencil.Data.Value
import Stencil.Path
import Stencil.Text.Escaped

/-!
# Options

What a template is compiled and rendered with.

## Main definitions

* `Stencil.Options` — the options, with their defaults.
* `Stencil.Options.ofValue?` — the options that a value spells out.
-/

set_option relaxedAutoImplicit false
set_option autoImplicit false

namespace Stencil

/-- **The options of a template.** -/
structure Options where
  /-- The character that delimits tags. -/
  delimiter : Char := '%'
  /-- Whether white space at the edges of lines is removed. -/
  trimWhitespace : Bool := false
  /-- Whether lines are tracked, so that a failure can be located. -/
  diagnostics : Bool := true
  /-- Whether the generated code is logged. -/
  debug : Bool := false
  /-- Whether the members of the data are names of their own. -/
  strictLocals : Bool := true
  /-- Whether compiled templates are kept for reuse. -/
  cacheArtifacts : Bool := false
  /-- The path of the template; includes and reuse need it. -/
  sourcePath : Option Path := none
  /-- Bindings that every fragment sees beneath the data. -/
  globals : Option Value := none
  /-- Whether literal segments of white space are dropped. -/
  dropBlank : Bool := true
  /-- How the values of escaped expressions are escaped. -/
  escape : String → String := Text.escapeMarkup

namespace Options

/-- One setting.  An unknown name or a value of the wrong type is refused. -/
def set? (options : Options) (name : String) (value : Value) : Option Options :=
  match name, value with
  | "delimiter", .text s =>
    match s.toList with
    | [d] => some { options with delimiter := d }
    | _ => none
  | "trim-whitespace", .bool b => some { options with trimWhitespace := b }
  | "compile-diagnostics", .bool b => some { options with diagnostics := b }
  | "debug", .bool b => some { options with debug := b }
  | "strict-locals-scope", .bool b => some { options with strictLocals := b }
  | "cache-artifacts", .bool b => some { options with cacheArtifacts := b }
  | "source-path", .null => some { options with sourcePath := none }
  | "source-path", .text s => some { options with sourcePath := some ⟨s⟩ }
  | "evaluation-scope", .null => some { options with globals := none }
  | "evaluation-scope", v => some { options with globals := some v }
  | "drop-blank-segments", .bool b => some { options with dropBlank := b }
  | _, _ => none

/-- The names of the settings, in the order in which a list gives them. -/
def names : List String :=
  ["delimiter", "trim-whitespace", "compile-diagnostics", "debug", "strict-locals-scope",
    "cache-artifacts", "source-path", "evaluation-scope", "drop-blank-segments"]

/-- The options that named settings spell out; the rest have their defaults. -/
def ofFields? (fields : List (String × Value)) : Option Options :=
  fields.foldlM (fun options (name, value) => options.set? name value) {}

/-- **The options that a value spells out:** an object of settings, or a list of the first of
them. -/
def ofValue? : Value → Option Options
  | .object fields => ofFields? fields
  | .list items => if items.length ≤ names.length then ofFields? (names.zip items) else none
  | _ => none

/-- The options of a template that is included at a path. -/
def forInclude (options : Options) (path : Path) : Options :=
  { options with sourcePath := some path }

end Options

end Stencil
