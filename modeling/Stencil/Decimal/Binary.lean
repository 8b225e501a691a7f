/-!
# Binary fractions

A finite double is a whole number times a power of two.  All exact work on numbers (their digits,
their remainders, rounding to places) is done on that pair in whole-number arithmetic.

## Main definitions

* `Stencil.Decimal.twoPow`, `Stencil.Decimal.tenPow` — powers of whole numbers.
* `Stencil.Decimal.Binary` — sign, significand and exponent.
* `Stencil.Decimal.Binary.ofFloat?` — the pair of a finite double.
* `Stencil.Decimal.Binary.toFloat` — the double of a pair.
* `Stencil.Decimal.isIntegral` — whether a double is a whole number.
* `Stencil.Decimal.remainder` — the remainder of a truncated division.
-/

set_option relaxedAutoImplicit false
set_option autoImplicit false

namespace Stencil.Decimal

/-- **A power of two.** -/
abbrev twoPow (n : Nat) : Nat := Nat.pow 2 n

/-- **A power of ten.** -/
abbrev tenPow (n : Nat) : Nat := Nat.pow 10 n

/-- **A binary fraction:** `significand * 2 ^ exponent`, with a sign that zero has too. -/
structure Binary where
  /-- Whether the sign is minus. -/
  negative : Bool
  /-- The significand. -/
  significand : Nat
  /-- The exponent of two. -/
  exponent : Int
  deriving DecidableEq, Repr

/-- **The binary fraction of a finite double;** none for an infinity or a NaN. -/
def Binary.ofFloat? (x : Float) : Option Binary :=
  let bits : Nat := x.toBits.toNat
  let negative := bits / twoPow 63 == 1
  let field : Nat := bits / twoPow 52 % twoPow 11
  let fraction : Nat := bits % twoPow 52
  if field = 2047 then none
  else if field = 0 then some ⟨negative, fraction, -1074⟩
  else some ⟨negative, fraction + twoPow 52, (field : Int) - 1075⟩

/-- **The double of a binary fraction** whose significand has at most 53 bits. -/
def Binary.toFloat (b : Binary) : Float :=
  let magnitude := Float.scaleB (Float.ofNat b.significand) b.exponent
  if b.negative then -magnitude else magnitude

/-- Whether a binary fraction is a whole number. -/
def Binary.isIntegral (b : Binary) : Bool :=
  b.exponent ≥ 0 || b.significand % twoPow (-b.exponent).toNat == 0

/-- The whole part of the magnitude. -/
def Binary.truncate (b : Binary) : Nat :=
  if b.exponent ≥ 0 then b.significand * twoPow b.exponent.toNat
  else b.significand / twoPow (-b.exponent).toNat

/-- **Whether a double is a whole number;** an infinity and a NaN are none. -/
def isIntegral (x : Float) : Bool :=
  match Binary.ofFloat? x with
  | some b => b.isIntegral
  | none => false

/-- The whole number of an integral double, and the truncation of any other finite one. -/
def toInt? (x : Float) : Option Int :=
  (Binary.ofFloat? x).map fun b => if b.negative then -(b.truncate : Int) else b.truncate

/-- **The remainder of the truncated division of two doubles.**  It is exact, has the sign of the
dividend, and is undefined for an infinite dividend and for the divisor zero. -/
def remainder (x y : Float) : Float :=
  match Binary.ofFloat? x, Binary.ofFloat? y with
  | some a, some b =>
    if b.significand = 0 then 0.0 / 0.0
    else
      let low := min a.exponent b.exponent
      let dividend := a.significand * twoPow (a.exponent - low).toNat
      let divisor := b.significand * twoPow (b.exponent - low).toNat
      Binary.toFloat ⟨a.negative, dividend % divisor, low⟩
  | some _, none => if y.isNaN then y else x
  | none, _ => 0.0 / 0.0

end Stencil.Decimal
