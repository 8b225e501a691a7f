import Stencil.Text.Letter

/-!
# Numerals

Reading decimal numerals.  A numeral is read to the nearest double, with ties to even; a numeral
too large for any double is an infinity, and one too small is zero.

## Main definitions

* `Stencil.Decimal.nearest` — the double nearest to a decimal.
* `Stencil.Decimal.readFloat?` — a numeral with an optional sign, fraction and exponent, or the name
  of a number that is not finite.
* `Stencil.Decimal.readNat?` — a whole number with an optional plus sign.
-/

set_option relaxedAutoImplicit false
set_option autoImplicit false

namespace Stencil.Decimal

/-- The value of a digit. -/
def digitValue (c : Char) : Nat := c.toNat - '0'.toNat

/-- The whole number that a run of digits denotes. -/
def natOfDigits (ds : List Char) : Nat := ds.foldl (fun n c => 10 * n + digitValue c) 0

/-- The value of a digit in a radix up to 36, where letters of either case stand for ten and
more. -/
def digitIn? (radix : Nat) (c : Char) : Option Nat :=
  let n := c.toNat
  let value :=
    if 48 ≤ n ∧ n ≤ 57 then n - 48
    else if 97 ≤ n ∧ n ≤ 122 then n - 87
    else if 65 ≤ n ∧ n ≤ 90 then n - 55
    else radix
  if value < radix then some value else none

/-- **The double nearest to `significand * 10 ^ exponent`.**  Exponents beyond the range of doubles
are decided without forming the power. -/
def nearest (significand : Nat) (exponent : Int) : Float :=
  let top := exponent + (Nat.toDigits 10 significand).length
  if significand = 0 then 0.0
  else if top > 400 then 1.0 / 0.0
  else if top < -400 then 0.0
  else Float.ofScientific significand (exponent < 0) exponent.natAbs

/-- The exponent of a numeral: nothing, or a mark, an optional sign and digits to the end. -/
def readExponent? : List Char → Option Int
  | [] => some 0
  | c :: rest =>
    if c = 'e' ∨ c = 'E' then
      let (negative, ds) := match rest with
        | '-' :: ds => (true, ds)
        | '+' :: ds => (false, ds)
        | ds => (false, ds)
      if ds.isEmpty || !ds.all Text.isDigit then none
      else some (if negative then -(natOfDigits ds : Int) else natOfDigits ds)
    else none

/-- A numeral without a sign: digits with at most one point among or around them, and an
optional exponent. -/
def readMagnitude? (s : List Char) : Option Float :=
  let whole := s.takeWhile Text.isDigit
  let rest := s.dropWhile Text.isDigit
  let (fraction, rest) := match rest with
    | '.' :: r => (r.takeWhile Text.isDigit, r.dropWhile Text.isDigit)
    | r => ([], r)
  if whole.isEmpty && fraction.isEmpty then none
  else (readExponent? rest).map fun e =>
    nearest (natOfDigits (whole ++ fraction)) (e - fraction.length)

/-- The names of numbers that are not finite, in ASCII letters of either case. -/
def readName? (s : List Char) : Option Float :=
  let word := s.map Char.toLower
  if word = "inf".toList ∨ word = "infinity".toList then some (1.0 / 0.0)
  else if word = "nan".toList then some (0.0 / 0.0)
  else none

/-- **A number as text:** an optional sign, then a numeral or the name of a number. -/
def readFloat? (s : List Char) : Option Float :=
  let unsigned := fun r => (readMagnitude? r).orElse fun _ => readName? r
  match s with
  | '-' :: rest => (unsigned rest).map fun x => -x
  | '+' :: rest => unsigned rest
  | _ => unsigned s

/-- **A whole number as text:** an optional plus sign and digits, below the given bound. -/
def readNat? (bound : Nat) (s : List Char) : Option Nat :=
  let ds := match s with
    | '+' :: rest => rest
    | _ => s
  if ds.isEmpty || !ds.all Text.isDigit then none
  else
    let n := natOfDigits ds
    if n < bound then some n else none

end Stencil.Decimal
