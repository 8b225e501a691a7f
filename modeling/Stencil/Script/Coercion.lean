import Stencil.Data.Value
import Stencil.Decimal.Numeral
import Stencil.Script.Fault
import Stencil.Text.Blank

/-!
# Coercions and comparisons

How a value counts as a number, a text or a key, and how two values compare.

## Main definitions

* `Stencil.Value.ofFloat` — a double as a value.
* `Stencil.Value.toFloat`, `Stencil.Value.toText`, `Stencil.Value.kind` — the coercions.
* `Stencil.Value.strictEquals`, `looseEquals`, `compare` — the comparisons.
* `Stencil.Value.plus` — addition, which joins texts.

## Design

Scripts compute on doubles.  A whole result that a double holds exactly is stored as a whole number,
and one that is not finite as nothing.
-/

set_option relaxedAutoImplicit false
set_option autoImplicit false

namespace Stencil.Value

/-- The largest whole number below which a double holds every one exactly. -/
def maxExact : Nat := Decimal.twoPow 53 - 1

/-- **A double as a value.** -/
def ofFloat (x : Float) : Value :=
  match Decimal.Binary.ofFloat? x with
  | none => .null
  | some b =>
    if b.isIntegral ∧ b.truncate ≤ maxExact then
      ofInt (if b.negative then -(b.truncate : Int) else b.truncate)
    else .number (.float x)

/-- A double that is no number. -/
def nan : Float := 0.0 / 0.0

/-- **A value as a number.**  A text counts by its numeral, an empty one as zero; a list counts by
its only element, an empty one as zero. -/
def toFloat : Value → Float
  | .null => nan
  | .bool b => if b then 1.0 else 0.0
  | .number n => n.toFloat
  | .text s =>
    let trimmed := Text.trim s.toList
    if trimmed.isEmpty then 0.0 else (Decimal.readFloat? trimmed).getD nan
  | .list [] => 0.0
  | .list [single] => toFloat single
  | .list (_ :: _ :: _) => nan
  | .object _ => nan

/-- **A value as a text.**  Unlike in the output, nothing shows its name. -/
def toText : Value → String
  | .null => "undefined"
  | v => v.display

/-- **The kind of a value.** -/
def kind : Value → String
  | .null => "undefined"
  | .bool _ => "boolean"
  | .number _ => "number"
  | .text _ => "string"
  | .list _ | .object _ => "object"

/-! ## Comparisons -/

/-- **Equality without coercion.**  Numbers are equal when they count the same; other values when
they are stored alike. -/
def strictEquals : Value → Value → Bool
  | .number m, .number n => m.toFloat == n.toFloat
  | a, b => same a b

/-- Whether a value is a list or an object. -/
def isContainer : Value → Bool
  | .list _ | .object _ => true
  | _ => false

/-- Whether a value is a text or a number. -/
def isTextOrNumber : Value → Bool
  | .text _ | .number _ => true
  | _ => false

/-- **Equality with coercion.**  Nothing is equal to itself alone.  A truth value, or a number
beside a text, is compared as a number; a container beside a text or number as a text. -/
def looseEquals (a b : Value) : Bool :=
  match a, b with
  | .null, .null => true
  | .null, _ | _, .null => false
  | .bool _, _ | _, .bool _ => a.toFloat == b.toFloat
  | .number _, .text _ | .text _, .number _ => a.toFloat == b.toFloat
  | _, _ =>
    if (a.isContainer && b.isTextOrNumber) || (a.isTextOrNumber && b.isContainer) then
      a.toText == b.toText
    else strictEquals a b

/-- **The order of two values.**  Two texts are ordered by code points, other values as numbers;
there is none when one of them is no number. -/
def compare (a b : Value) : Option Ordering :=
  match a, b with
  | .text s, .text t => some (if s < t then .lt else if s = t then .eq else .gt)
  | _, _ =>
    let x := a.toFloat
    let y := b.toFloat
    if x < y then some .lt else if x > y then some .gt else if x == y then some .eq else none

/-- Whether adding a value joins texts. -/
def joinsTexts : Value → Bool
  | .text _ | .list _ | .object _ => true
  | _ => false

/-- **Addition:** texts are joined, numbers are added. -/
def plus (a b : Value) : Value :=
  if a.joinsTexts || b.joinsTexts then .text (a.toText ++ b.toText)
  else ofFloat (a.toFloat + b.toFloat)

/-! ## Keys -/

/-- A value as the key of an object. -/
def propertyKey : Value → String
  | .text s => s
  | .number n => n.display
  | v => v.toText

/-- The largest position. -/
def maxPosition : Nat := Decimal.twoPow 64 - 1

/-- A value as a position in a list: a whole number that is not negative, or the numeral of one.
A position beyond the largest one stands for that. -/
def arrayIndex? (v : Value) : Option Nat :=
  let position := fun (x : Float) =>
    match Decimal.Binary.ofFloat? x with
    | none => none
    | some b =>
      if b.isIntegral ∧ (b.negative → b.significand = 0) then some (min b.truncate maxPosition)
      else none
  match v with
  | .number n => position n.toFloat
  | .text s => (Decimal.readFloat? s.toList).bind position
  | _ => none

end Stencil.Value
