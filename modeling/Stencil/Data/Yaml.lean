import Stencil.Data.Value
import Stencil.Decimal.Numeral

/-!
# YAML nodes

A YAML document before its scalars are given a meaning: the same scalar may be read as a text or as
a number, and only a plain one can be anything but a text.

## Main definitions

* `Stencil.Yaml` — a node.
* `Stencil.Yaml.text?`, `Stencil.Yaml.toValue?` — a node read as a text, and as a value.
-/

set_option relaxedAutoImplicit false
set_option autoImplicit false

namespace Stencil

/-- **A YAML node.** -/
inductive Yaml where
  /-- A scalar; a plain one stands without quotes. -/
  | scalar (text : String) (plain : Bool)
  /-- A list. -/
  | list (items : List Yaml)
  /-- A mapping, in the order in which it is written. -/
  | mapping (entries : List (String × Yaml))

namespace Yaml

/-! ## Plain scalars -/

/-- Whether a plain scalar stands for nothing. -/
def isNullText (s : String) : Bool := ["", "~", "null", "Null", "NULL"].contains s

/-- The truth value that a plain scalar stands for. -/
def boolOfText? (s : String) : Option Bool :=
  if ["true", "True", "TRUE"].contains s then some true
  else if ["false", "False", "FALSE"].contains s then some false
  else none

/-- A text without a sign at its beginning, and whether that was a minus. -/
def splitSign : List Char → Bool × List Char
  | '-' :: rest => (true, rest)
  | '+' :: rest => (false, rest)
  | s => (false, s)

/-- A whole number without a sign: decimal, or in the radix that its first two characters
tell. -/
def magnitude? (s : List Char) : Option Nat :=
  let (radix, digits) := match s with
    | '0' :: 'x' :: rest => (16, rest)
    | '0' :: 'o' :: rest => (8, rest)
    | '0' :: 'b' :: rest => (2, rest)
    | _ => (10, s)
  if digits.isEmpty then none
  else digits.foldlM (fun n c => (Decimal.digitIn? radix c).map fun d => radix * n + d) 0

/-- Whether a text is digits behind a zero, which makes it no number. -/
def hasLeadingZero (s : List Char) : Bool :=
  match (splitSign s).2 with
  | '0' :: c :: rest => (c :: rest).all Text.isDigit
  | _ => false

/-- The whole number that a plain scalar stands for, however large. -/
def intOfText? (s : List Char) : Option Int :=
  let (negative, rest) := splitSign s
  if hasLeadingZero s then none
  else (magnitude? rest).map fun n => if negative then -(n : Int) else n

/-- The double that a plain scalar stands for; one that is not finite counts as nothing. -/
def floatOfText? (s : List Char) : Option Value :=
  let (_, rest) := splitSign s
  if [".inf", ".Inf", ".INF"].contains (String.ofList rest) then some .null
  else if [".nan", ".NaN", ".NAN"].contains (String.ofList s) then some .null
  else if hasLeadingZero s then none
  else
    match Decimal.readFloat? s with
    | some x => if x.isFinite then some (.number (.float x)) else none
    | none => none

/-- Whether a whole number fits into 128 bits, of which a negative one uses one as its sign. -/
def fitsWide (n : Int) : Bool :=
  decide (-(Decimal.twoPow 127 : Int) ≤ n) && decide (n < (Decimal.twoPow 128 : Int))

/-- The value that a plain scalar stands for.  A whole number has to fit into 64 bits; only one
that does not fit into 128 either is read as a double, or as a text where it is not decimal. -/
def valueOfText? (s : String) : Option Value :=
  if isNullText s then some .null
  else
    match boolOfText? s, (intOfText? s.toList).filter fitsWide with
    | some b, _ => some (.bool b)
    | none, some n => if Number.fits n then some (.ofInt n) else none
    | none, none => some ((floatOfText? s.toList).getD (.text s))

/-! ## Nodes -/

/-- **A scalar as a text,** plain or not. -/
def text? : Yaml → Option String
  | scalar s _ => some s
  | _ => none

/-- Whether a node stands for nothing. -/
def isNull : Yaml → Bool
  | scalar s plain => plain && isNullText s
  | _ => false

mutual

/-- **A node as a value.**  Of entries with one key the last one counts. -/
def toValue? : Yaml → Option Value
  | scalar s plain => if plain then valueOfText? s else some (.text s)
  | list items => (toValues? items).map .list
  | mapping entries => (toFields? [] entries).map .object

/-- Nodes as values. -/
def toValues? : List Yaml → Option (List Value)
  | [] => some []
  | node :: rest =>
    match toValue? node, toValues? rest with
    | some v, some vs => some (v :: vs)
    | _, _ => none

/-- The entries of a mapping as members, beside those given. -/
def toFields? (fields : Fields Value) : List (String × Yaml) → Option (Fields Value)
  | [] => some fields
  | (key, node) :: rest =>
    match toValue? node with
    | some v => toFields? (Fields.insert key v fields) rest
    | none => none

end

end Yaml

end Stencil
