import Stencil.Script.Property
import Stencil.Text.Search

/-!
# Methods

What is called on a value with a dot: the methods of texts, lists, numbers and objects.

## Main definitions

* `Stencil.Script.callMethod` — a method of a value.
* `Stencil.Script.textMethod?`, `listMethod?`, `numberMethod?` — the methods of one kind of value.
-/

set_option relaxedAutoImplicit false
set_option autoImplicit false

namespace Stencil.Script

open Value

/-- An argument by its position. -/
def argument? (args : List Value) (i : Nat) : Option Value := args[i]?

/-- The first argument; without one, nothing. -/
def firstArgument (args : List Value) : Value := (argument? args 0).getD .null

/-- An argument as a number; without one, a default. -/
def numberArgument (args : List Value) (i : Nat) (default : Float) : Float :=
  match argument? args i with
  | some v => v.toFloat
  | none => default

/-! ## Positions -/

/-- A position that a double stands for, at most a limit; what is no number stands for the
beginning. -/
def position (limit : Nat) (x : Float) : Nat :=
  match Decimal.toInt? x with
  | some n => min n.toNat limit
  | none => if x > 0.0 then limit else 0

/-- A position that may be counted from the end.  A negative number counts backwards, not beyond
the beginning. -/
def relativePosition (limit : Nat) (x : Float) : Nat :=
  match Decimal.toInt? x with
  | some n => if n < 0 then (limit + n).toNat else min n.toNat limit
  | none => if x > 0.0 then limit else 0

/-- An argument as a position that may be counted from the end; without one, a default. -/
def sliceBound (limit : Nat) (arg : Option Value) (default : Nat) : Nat :=
  match arg with
  | none | some .null => default
  | some v => relativePosition limit v.toFloat

/-- The elements from one position up to another. -/
def between {α : Type} (items : List α) (start stop : Nat) : List α :=
  (items.take stop).drop start

/-! ## Texts -/

/-- The longest text that repeating and padding may give. -/
def maxTextLength : Float := 536870888.0

/-- A double without its fraction. -/
def truncate (x : Float) : Float := if x < 0.0 then x.ceil else x.floor

/-- The fault of a method that would give too long a text, if it would. -/
def lengthFault? (s name : String) (args : List Value) : Option Fault :=
  let first := numberArgument args 0 0.0
  let tooLong := fun (length : Float) =>
    if length > maxTextLength then some (.function name "Invalid string length") else none
  if name = "repeat" then
    if first.isInf then some (.function name "Invalid count value: Infinity")
    else if first.isNaN || first <= 0.0 || s.isEmpty then none
    else tooLong (truncate first * Float.ofNat s.length)
  else if name = "padStart" ∨ name = "padEnd" then
    if (argument? args 1).any fun fill => fill.toText.isEmpty then none else tooLong first
  else none

/-- A text repeated up to a length. -/
def cycle (fill : List Char) (length : Nat) : List Char :=
  if fill.isEmpty then []
  else ((List.replicate (length / fill.length + 1) fill).flatten).take length

/-- A text with every occurrence of another replaced.  The empty text occurs before every
character and at the end. -/
def replaceEvery (p r s : List Char) : List Char :=
  if p.isEmpty then r ++ s.flatMap fun c => c :: r else Text.replaceAll p r s

/-- The pieces of a text between the occurrences of another; between those of the empty text
stand the characters. -/
def splitText (separator s : List Char) : List (List Char) :=
  if separator.isEmpty then s.map fun c => [c] else Text.splitOn separator s

/-- **A method of a text;** none of that name for these arguments. -/
def textMethod? (s : String) (name : String) (args : List Value) : Option Value :=
  let cs := s.toList
  let arg := fun (i : Nat) => (argument? args i).map fun v => v.toText.toList
  let text := fun (cs : List Char) => Value.text (String.ofList cs)
  match name with
  | "toUpperCase" => some (.text (Text.toUpper s))
  | "toLowerCase" => some (.text (Text.toLower s))
  | "trim" => some (text (Text.trim cs))
  | "trimStart" => some (text (Text.trimStart cs))
  | "trimEnd" => some (text (Text.trimEnd cs))
  | "includes" => (arg 0).map fun p => .bool (Text.occursIn p cs)
  | "startsWith" => (arg 0).map fun p => .bool (Text.startsWith p cs)
  | "endsWith" => (arg 0).map fun p => .bool (Text.startsWith p.reverse cs.reverse)
  | "indexOf" => (arg 0).map fun p =>
    match Text.splitFirst? p cs with
    | some (before, _) => ofNat before.length
    | none => ofInt (-1)
  | "split" =>
    match argument? args 0 with
    | none | some .null => some (.list [.text s])
    | some separator => some (.list ((splitText separator.toText.toList cs).map text))
  | "slice" =>
    let start := sliceBound cs.length (argument? args 0) 0
    let stop := sliceBound cs.length (argument? args 1) cs.length
    some (text (between cs start stop))
  | "substring" =>
    let bound := fun (v : Option Value) (default : Nat) =>
      match v with
      | none | some .null => default
      | some v => position cs.length v.toFloat
    let a := bound (argument? args 0) 0
    let b := bound (argument? args 1) cs.length
    some (text (between cs (min a b) (max a b)))
  | "charAt" =>
    let x := numberArgument args 0 0.0
    let i := if x >= 0.0 then position cs.length x else cs.length
    some (text cs[i]?.toList)
  | "replace" => (arg 0).map fun p =>
    match Text.splitFirst? p cs with
    | some (before, after) => text (before ++ (arg 1).getD [] ++ after)
    | none => .text s
  | "replaceAll" => (arg 0).map fun p => text (replaceEvery p ((arg 1).getD []) cs)
  | "repeat" =>
    let x := numberArgument args 0 0.0
    if x.isNaN || x < 0.0 then none
    else if cs.isEmpty then some (text [])
    else
      some (text (List.replicate ((Decimal.toInt? x).getD 0).toNat cs).flatten)
  | "padStart" | "padEnd" =>
    let x := numberArgument args 0 0.0
    let length := if x > Float.ofNat cs.length then ((Decimal.toInt? x).getD 0).toNat else 0
    let padding := cycle ((arg 1).getD [' ']) (length - cs.length)
    some (text (if name = "padStart" then padding ++ cs else cs ++ padding))
  | "concat" => some (.text (args.foldl (fun joined v => joined ++ v.toText) s))
  | "toString" => some (.text s)
  | _ => none

/-! ## Lists -/

/-- The position of the first element equal to a value. -/
def indexOf? (items : List Value) (v : Value) : Option Nat :=
  items.findIdx? fun item => strictEquals item v

/-- **A method of a list** that does not change it. -/
def listMethod? (items : List Value) (name : String) (args : List Value) : Option Value :=
  let first := firstArgument args
  match name with
  | "join" =>
    let separator := match argument? args 0 with
      | none | some .null => ","
      | some v => v.toText
    some (.text (String.intercalate separator (items.map Value.display)))
  | "includes" => some (.bool (items.any fun item => strictEquals item first))
  | "indexOf" =>
    match indexOf? items first with
    | some i => some (ofNat i)
    | none => some (ofInt (-1))
  | "slice" =>
    let start := sliceBound items.length (argument? args 0) 0
    let stop := sliceBound items.length (argument? args 1) items.length
    some (.list (between items start stop))
  | "concat" =>
    some (.list (items ++ args.flatMap fun
      | .list more => more
      | other => [other]))
  | _ => none

/-- A method that changes a list: the list after it, and what the call gives. -/
def changeList? (name : String) (items args : List Value) : Option (List Value × Value) :=
  match name with
  | "push" => some (items ++ args, ofNat (items.length + args.length))
  | "unshift" => some (args ++ items, ofNat (args.length + items.length))
  | "pop" => some (items.dropLast, items.getLast?.getD .null)
  | "shift" => some (items.tail, items.head?.getD .null)
  | _ => none

/-- The names of the methods that change a list. -/
def isChanging (name : String) : Bool :=
  name = "push" || name = "pop" || name = "shift" || name = "unshift"

/-! ## Numbers -/

/-- The largest number of places that a number is shown with. -/
def maxPlaces : Nat := 100

/-- **A method of a number.** -/
def numberMethod? (x : Float) (name : String) (args : List Value) : Option Value :=
  match name with
  | "toFixed" =>
    let places := position maxPlaces (numberArgument args 0 0.0)
    some (.text (Decimal.fixedText places x))
  | "toString" => some (.text (Decimal.displayText x))
  | _ => none

/-! ## All values -/

/-- **A method of a value.** -/
def callMethod (receiver : Value) (name : String) (args : List Value) : Except Fault Value :=
  let orToString := fun (result : Option Value) =>
    match result with
    | some v => .ok v
    | none =>
      if name = "toString" then .ok (.text receiver.display)
      else .error (.type (.notFunction (receiver.kind ++ "." ++ name)))
  match receiver with
  | .null => .error (.type (.readOfNothing name))
  | .text s =>
    match lengthFault? s name args with
    | some fault => .error fault
    | none => orToString (textMethod? s name args)
  | .list items => orToString (listMethod? items name args)
  | .number n => orToString (numberMethod? n.toFloat name args)
  | .object fields =>
    if name = "hasOwnProperty" then
      .ok (.bool (Fields.contains (firstArgument args).propertyKey fields))
    else orToString none
  | .bool _ => orToString none

end Stencil.Script
