import Stencil.Data.Value
import Stencil.Decimal.Numeral

/-!
# Reading JSON

A reader for JSON text.  It refuses everything that the format does not allow, and also nesting
beyond a fixed depth and numbers too large for a double.

## Main definitions

* `Stencil.Json.readNumber?` — a number, and the text behind it.
* `Stencil.Json.readString?` — the rest of a string, and the text behind it.
* `Stencil.Json.read?` — a whole text as a value.

## Design

Each reader takes the text and gives back what is left of it.  The mutual readers for values,
elements and members spend one unit of fuel a call, of which two per character are enough; the
allowance for nesting is a separate count.

A fraction is read in two steps: its digits, as far as they fit into 64 bits, become a double, and
that double is multiplied or divided by a power of ten.  Both steps round, so a numeral of many
digits may be read to a neighbour of the nearest double.
-/

set_option relaxedAutoImplicit false
set_option autoImplicit false

namespace Stencil.Json

/-- The depth of lists and objects that is still read. -/
def maxDepth : Nat := 127

/-- White space between tokens. -/
def isSpace (c : Char) : Bool := c == ' ' || c == '\t' || c == '\n' || c == '\r'

/-- The text behind white space. -/
def skipSpace (s : List Char) : List Char := s.dropWhile isSpace

/-! ## Numbers -/

/-- The largest power of ten that a double is multiplied by in one step. -/
def maxPower : Nat := 308

/-- A power of ten as a double. -/
def power (n : Nat) : Float := Decimal.nearest 1 n

/-- A double scaled by a power of ten.  It is divided in steps where the power is too small for
one; there is none where the result would be infinite. -/
def scale? (x : Float) (exponent : Int) : Nat → Option Float
  | 0 => some 0.0
  | fuel + 1 =>
    if exponent.natAbs ≤ maxPower then
      if exponent ≥ 0 then
        let y := x * power exponent.natAbs
        if y.isInf then none else some y
      else some (x / power exponent.natAbs)
    else if x == 0.0 then some x
    else if exponent ≥ 0 then none
    else scale? (x / power maxPower) (exponent + maxPower) fuel

/-- A significand scaled by a power of ten.  Four steps reach below the smallest double. -/
def scaled? (significand : Nat) (exponent : Int) : Option Float :=
  let x := Float.ofNat significand
  if exponent < -2000 then some 0.0 else scale? x exponent 8

/-- The digits that fit into 64 bits, as a whole number, and the digits left over. -/
def takeDigits (significand : Nat) : List Char → Nat × List Char
  | [] => (significand, [])
  | c :: rest =>
    let next := 10 * significand + Decimal.digitValue c
    if next < Decimal.twoPow 64 then takeDigits next rest else (significand, c :: rest)

/-- The exponent of a number, if the mark is there, and the text behind it. -/
def readExponent? : List Char → Option (Int × List Char)
  | [] => some (0, [])
  | c :: rest =>
    if c = 'e' ∨ c = 'E' then
      let (negative, rest) := match rest with
        | '-' :: r => (true, r)
        | '+' :: r => (false, r)
        | r => (false, r)
      let ds := rest.takeWhile Text.isDigit
      if ds.isEmpty then none
      else
        let e : Int := Decimal.natOfDigits ds
        some (if negative then -e else e, rest.dropWhile Text.isDigit)
    else some (0, c :: rest)

/-- **A number without its sign,** and the text behind it.  A numeral without fraction and exponent
is a whole number as long as it fits; no other digit follows a leading zero. -/
def readNumber? (negative : Bool) (s : List Char) : Option (Number × List Char) :=
  let whole := s.takeWhile Text.isDigit
  let rest := s.dropWhile Text.isDigit
  if whole.isEmpty ∨ (whole.head? = some '0' ∧ whole.length > 1) then none
  else
    let (significand, unread) := takeDigits 0 whole
    let toFloat := fun (x : Float) => Number.float (if negative then -x else x)
    match rest with
    | '.' :: after =>
      let fraction := after.takeWhile Text.isDigit
      if fraction.isEmpty then none
      else
        let (significand, left) := takeDigits significand fraction
        let places : Int := unread.length - ((fraction.length : Int) - left.length)
        (readExponent? (after.dropWhile Text.isDigit)).bind fun (e, behind) =>
          (scaled? significand (places + e)).map fun x => (toFloat x, behind)
    | c :: _ =>
      if c = 'e' ∨ c = 'E' then
        (readExponent? rest).bind fun (e, behind) =>
          (scaled? significand (unread.length + e)).map fun x => (toFloat x, behind)
      else wholeNumber significand unread toFloat rest
    | [] => wholeNumber significand unread toFloat rest
where
  /-- A numeral without fraction and exponent. -/
  wholeNumber (significand : Nat) (unread : List Char) (toFloat : Float → Number)
      (rest : List Char) : Option (Number × List Char) :=
    if unread.isEmpty then
      if !negative then some (.integer significand, rest)
      else if significand ≠ 0 ∧ Number.fits (-significand) then
        some (.integer (-significand), rest)
      else some (toFloat (Float.ofNat significand), rest)
    else (scaled? significand unread.length).map fun x => (toFloat x, rest)

/-! ## Strings -/

/-- The value of four hexadecimal digits. -/
def hex4? (a b c d : Char) : Option Nat := do
  let a ← Decimal.digitIn? 16 a
  let b ← Decimal.digitIn? 16 b
  let c ← Decimal.digitIn? 16 c
  let d ← Decimal.digitIn? 16 d
  return ((a * 16 + b) * 16 + c) * 16 + d

/-- The character of an escape with one letter. -/
def simpleEscape? (c : Char) : Option Char :=
  if c = '"' then some '"'
  else if c = '\\' then some '\\'
  else if c = '/' then some '/'
  else if c = 'b' then some (Char.ofNat 8)
  else if c = 'f' then some (Char.ofNat 12)
  else if c = 'n' then some '\n'
  else if c = 'r' then some '\r'
  else if c = 't' then some '\t'
  else none

/-- **The rest of a string** up to its closing quote, and the text behind it.  A character outside
the basic plane may be escaped as a pair of surrogates; a lone one is refused. -/
def readString? : List Char → Option (List Char × List Char)
  | [] => none
  | '"' :: rest => some ([], rest)
  | '\\' :: 'u' :: a :: b :: c :: d :: rest =>
    match hex4? a b c d with
    | none => none
    | some n =>
      if 0xDC00 ≤ n ∧ n < 0xE000 then none
      else if 0xD800 ≤ n ∧ n < 0xDC00 then
        match rest with
        | '\\' :: 'u' :: e :: f :: g :: h :: rest =>
          match hex4? e f g h with
          | some m =>
            if 0xDC00 ≤ m ∧ m < 0xE000 then
              let point := 0x10000 + (n - 0xD800) * 0x400 + (m - 0xDC00)
              (readString? rest).map fun (s, behind) => (Char.ofNat point :: s, behind)
            else none
          | none => none
        | _ => none
      else (readString? rest).map fun (s, behind) => (Char.ofNat n :: s, behind)
  | '\\' :: c :: rest =>
    match simpleEscape? c with
    | some x => (readString? rest).map fun (s, behind) => (x :: s, behind)
    | none => none
  | c :: rest =>
    if c = '\\' ∨ c.toNat < 32 then none
    else (readString? rest).map fun (s, behind) => (c :: s, behind)

/-! ## Values -/

mutual

/-- A value, and the text behind it. -/
def readValue? (depth : Nat) : Nat → List Char → Option (Value × List Char)
  | 0, _ => none
  | fuel + 1, s =>
    match skipSpace s with
    | 'n' :: 'u' :: 'l' :: 'l' :: rest => some (.null, rest)
    | 't' :: 'r' :: 'u' :: 'e' :: rest => some (.bool true, rest)
    | 'f' :: 'a' :: 'l' :: 's' :: 'e' :: rest => some (.bool false, rest)
    | '"' :: rest => (readString? rest).map fun (s, behind) => (.text (String.ofList s), behind)
    | '-' :: rest => (readNumber? true rest).map fun (n, behind) => (.number n, behind)
    | '[' :: rest =>
      if depth = 0 then none
      else
        match skipSpace rest with
        | ']' :: behind => some (.list [], behind)
        | inside => (readElements? (depth - 1) fuel inside).map fun (items, behind) =>
          (.list items, behind)
    | '\x7b' :: rest =>
      if depth = 0 then none
      else
        match skipSpace rest with
        | '\x7d' :: behind => some (.object [], behind)
        | inside => (readMembers? (depth - 1) fuel inside).map fun (entries, behind) =>
          (.object (Fields.ofList entries), behind)
    | inside => (readNumber? false inside).map fun (n, behind) => (.number n, behind)

/-- The elements of a list up to the closing bracket, and the text behind it. -/
def readElements? (depth : Nat) : Nat → List Char → Option (List Value × List Char)
  | 0, _ => none
  | fuel + 1, s =>
    (readValue? depth fuel s).bind fun (item, rest) =>
      match skipSpace rest with
      | ',' :: more => (readElements? depth fuel more).map fun (items, behind) =>
        (item :: items, behind)
      | ']' :: behind => some ([item], behind)
      | _ => none

/-- The members of an object up to the closing brace, and the text behind it. -/
def readMembers? (depth : Nat) : Nat → List Char → Option (List (String × Value) × List Char)
  | 0, _ => none
  | fuel + 1, s =>
    match skipSpace s with
    | '"' :: rest =>
      (readString? rest).bind fun (key, rest) =>
        match skipSpace rest with
        | ':' :: rest =>
          (readValue? depth fuel rest).bind fun (item, rest) =>
            match skipSpace rest with
            | ',' :: more => (readMembers? depth fuel more).map fun (entries, behind) =>
              ((String.ofList key, item) :: entries, behind)
            | '\x7d' :: behind => some ([(String.ofList key, item)], behind)
            | _ => none
        | _ => none
    | _ => none

end

/-- **A text as a value,** with white space around it at most. -/
def read? (s : String) : Option Value :=
  match readValue? maxDepth (2 * s.length + 2) s.toList with
  | some (v, rest) => if (skipSpace rest).isEmpty then some v else none
  | none => none

end Stencil.Json
