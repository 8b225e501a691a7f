import Stencil.Decimal.Binary

/-!
# Shortest digits

The fewest decimal digits that read back as a given double, and the two ways in which they are laid
out: in data text with an exponent where the number is large or small, in template output always
positionally.

## Main definitions

* `Stencil.Decimal.Digits` — a decimal significand and its exponent of ten.
* `Stencil.Decimal.shortest` — the shortest digits of a binary fraction.
* `Stencil.Decimal.dataText` — the notation of data text.
* `Stencil.Decimal.displayText` — the notation of template output.
* `Stencil.Decimal.fixedText` — a fixed number of places.

## Design

Between a double and its neighbours lies the interval of reals that round to it (its ends belong to
it iff the significand is even).  For one digit, two digits, … the search looks at the value's two
neighbours on that decimal grid; the first grid with a neighbour in the interval wins, and of two
such neighbours the nearer one.  An exact tie is decided by the `Tie` that the notation asks for.
-/

set_option relaxedAutoImplicit false
set_option autoImplicit false

namespace Stencil.Decimal

/-- Which way an exact tie goes. -/
inductive Tie where
  /-- To the neighbour with an even last digit. -/
  | toEven
  /-- To the larger neighbour. -/
  | up
  deriving DecidableEq, Repr

/-- **A decimal number** `significand * 10 ^ exponent`. -/
structure Digits where
  /-- The digits, read as a whole number. -/
  significand : Nat
  /-- The exponent of ten. -/
  exponent : Int
  deriving DecidableEq, Repr

/-- The digits of a whole number, most significant first. -/
def digitsOf (n : Nat) : List Char := Nat.toDigits 10 n

/-! ## The search -/

/-- The exponent of the first digit of the positive fraction `num / den`. -/
def leadingExponent (num den : Nat) : Int :=
  if den ≤ num then (digitsOf (num / den)).length - 1
  else -((digitsOf ((den + num - 1) / num - 1)).length : Int)

/-- The reals that round to a double, as multiples of `1 / den`: the value, the two ends, and
whether the ends belong to it. -/
structure Neighbourhood where
  /-- The value. -/
  value : Nat
  /-- The lower end. -/
  low : Nat
  /-- The upper end. -/
  high : Nat
  /-- The common denominator. -/
  den : Nat
  /-- Whether the ends round to the value. -/
  closed : Bool

/-- The neighbourhood of a positive binary fraction.  Below a power of two the doubles lie twice
as close. -/
def Binary.neighbourhood (b : Binary) : Neighbourhood :=
  let scale := twoPow b.exponent.toNat
  let below := if b.significand = twoPow 52 ∧ b.exponent > -1074 then 1 else 2
  { value := 4 * b.significand * scale
    low := (4 * b.significand - below) * scale
    high := (4 * b.significand + 2) * scale
    den := 4 * twoPow (-b.exponent).toNat
    closed := b.significand % 2 == 0 }

/-- Whether a decimal rounds to the value. -/
def Neighbourhood.holds (n : Neighbourhood) (d : Digits) : Bool :=
  let num := d.significand * tenPow d.exponent.toNat * n.den
  let unit := tenPow (-d.exponent).toNat
  if n.closed then n.low * unit ≤ num && num ≤ n.high * unit
  else n.low * unit < num && num < n.high * unit

/-- The decimal below the value and the one above it on the grid of multiples of
`10 ^ exponent`. -/
def Neighbourhood.onGrid (n : Neighbourhood) (exponent : Int) : Digits × Digits :=
  let below := n.value * tenPow (-exponent).toNat / (n.den * tenPow exponent.toNat)
  (⟨below, exponent⟩, ⟨below + 1, exponent⟩)

/-- The nearer of the two grid neighbours that round to the value, if one does. -/
def Neighbourhood.pick? (n : Neighbourhood) (tie : Tie) (exponent : Int) : Option Digits :=
  let (below, above) := n.onGrid exponent
  match n.holds below, n.holds above with
  | true, false => some below
  | false, true => some above
  | false, false => none
  | true, true =>
    let middle := (2 * below.significand + 1) * tenPow exponent.toNat * n.den
    let twice := 2 * n.value * tenPow (-exponent).toNat
    if twice < middle then some below
    else if middle < twice then some above
    else
      match tie with
      | .up => some above
      | .toEven => some (if below.significand % 2 = 0 then below else above)

/-- The first hit on grids that grow finer, `fuel` of them at most. -/
def Neighbourhood.search (n : Neighbourhood) (tie : Tie) : Nat → Int → Digits
  | 0, exponent => (n.onGrid exponent).1
  | fuel + 1, exponent =>
    match n.pick? tie exponent with
    | some d => d
    | none => n.search tie fuel (exponent - 1)

/-- A decimal without trailing zeros; `fuel` bounds their number. -/
def Digits.stripZeros : Nat → Digits → Digits
  | 0, d => d
  | fuel + 1, d =>
    if d.significand ≠ 0 ∧ d.significand % 10 = 0 then
      stripZeros fuel ⟨d.significand / 10, d.exponent + 1⟩
    else d

/-- **The shortest digits that read back as a binary fraction.**  Seventeen always suffice. -/
def shortest (tie : Tie) (b : Binary) : Digits :=
  if b.significand = 0 then ⟨0, 0⟩
  else
    let n := b.neighbourhood
    (n.search tie 17 (leadingExponent n.value n.den)).stripZeros 20

/-! ## Notations -/

/-- Digits with the point put in, and zeros before or behind them as it takes. -/
def Digits.positional (d : Digits) : List Char :=
  let ds := digitsOf d.significand
  if d.exponent ≥ 0 then ds ++ List.replicate d.exponent.toNat '0'
  else
    let places := (-d.exponent).toNat
    if ds.length ≤ places then
      '0' :: '.' :: List.replicate (places - ds.length) '0' ++ ds
    else ds.take (ds.length - places) ++ '.' :: ds.drop (ds.length - places)

/-- Digits with one of them before the point and an exponent with its sign. -/
def Digits.scientific (d : Digits) : List Char :=
  let ds := digitsOf d.significand
  let e := d.exponent + ((ds.length : Int) - 1)
  let mantissa := match ds with
    | [] => []
    | [x] => [x]
    | x :: rest => x :: '.' :: rest
  mantissa ++ 'e' :: (if e < 0 then '-' else '+') :: digitsOf e.natAbs

/-- A sign in front. -/
def signed (negative : Bool) (s : List Char) : List Char := if negative then '-' :: s else s

/-- **The notation of data text.**  It is positional when the first digit stands between the fifth
place behind the point and the sixteenth before it, and then always shows a fraction; otherwise it
is scientific.  Ties go to even. -/
def dataText (x : Float) : Option String :=
  (Binary.ofFloat? x).map fun b =>
    let d := shortest .toEven b
    let e := d.exponent + (((digitsOf d.significand).length : Int) - 1)
    let body :=
      if -5 ≤ e ∧ e < 16 then
        d.positional ++ if d.exponent ≥ 0 then ['.', '0'] else []
      else d.scientific
    String.ofList (signed b.negative body)

/-- **The notation of template output.**  A whole number below `10 ^ 21` shows all its digits; any
other number shows its shortest digits positionally.  Ties go up. -/
def displayText (x : Float) : String :=
  match Binary.ofFloat? x with
  | none => if x.isNaN then "NaN" else if x < 0 then "-Infinity" else "Infinity"
  | some b =>
    let body :=
      if b.isIntegral ∧ b.truncate < tenPow 21 then digitsOf b.truncate
      else (shortest .up b).positional
    String.ofList (signed b.negative body)

/-- **A number with a fixed number of places,** rounded exactly; a tie goes to the even digit. -/
def fixedText (places : Nat) (x : Float) : String :=
  match Binary.ofFloat? x with
  | none => if x.isNaN then "NaN" else if x < 0 then "-inf" else "inf"
  | some b =>
    let num := b.significand * twoPow b.exponent.toNat * tenPow places
    let den := twoPow (-b.exponent).toNat
    let below := num / den
    let rest := num % den
    let rounded :=
      if 2 * rest > den ∨ (2 * rest = den ∧ below % 2 = 1) then below + 1 else below
    let ds := digitsOf rounded
    let padded := List.replicate (places + 1 - ds.length) '0' ++ ds
    let body :=
      if places = 0 then padded
      else padded.take (padded.length - places) ++ '.' :: padded.drop (padded.length - places)
    String.ofList (signed b.negative body)

end Stencil.Decimal
