import Stencil.Data.Json.Printer
import Stencil.Data.Json.Reader
import Stencil.Script.Method
import Stencil.Script.Scope

/-!
# Functions

What is called by name: functions that the host registers, the built-in functions, and the functions
of the built-in namespaces.

## Main definitions

* `Stencil.Script.Functions` — the functions that a host registers.
* `Stencil.Script.callFunction` — a call by name.
* `Stencil.Script.callStatic`, `Stencil.Script.constant?` — the functions and constants of the
  namespaces `JSON`, `Math`, `Object` and `Array`.

## Design

A function of the host comes before a binding of its name, and a binding before a built-in function.
A namespace is hidden by a binding of its name.
-/

set_option relaxedAutoImplicit false
set_option autoImplicit false

namespace Stencil.Script

open Value

/-- **The functions that a host registers,** by name.  One fails with a message. -/
abbrev Functions := Fields (List Value → Except String Value)

/-! ## Numerals -/

/-- The whole number that a text begins with, in a radix from 2 to 36; nothing without one, or
for one that does not fit into 64 bits.  A radix of zero, or of no number, is ten, or sixteen behind
the mark of a hexadecimal numeral. -/
def parseWhole (s : List Char) (radix : Option Float) : Value :=
  let (negative, digits) := match Text.trim s with
    | '-' :: rest => (true, rest)
    | '+' :: rest => (false, rest)
    | s => (false, s)
  let hex := match digits with
    | '0' :: 'x' :: rest | '0' :: 'X' :: rest => some rest
    | _ => none
  let read := fun (radix : Nat) (digits : List Char) =>
    let ds := (digits.map (Decimal.digitIn? radix)).takeWhile Option.isSome
    let n := ds.foldl (fun n d => radix * n + d.getD 0) 0
    if ds.isEmpty || n ≥ Decimal.twoPow 63 then Value.null
    else ofInt (if negative then -(n : Int) else n)
  match radix.filter fun r => !(r.isNaN || r == 0.0), hex with
  | none, some rest => read 16 rest
  | none, none => read 10 digits
  | some r, some rest =>
    if r == 16.0 then read 16 rest
    else if 2.0 ≤ r && r ≤ 36.0 then read ((Decimal.toInt? r).getD 0).toNat digits else .null
  | some r, none =>
    if 2.0 ≤ r && r ≤ 36.0 then read ((Decimal.toInt? r).getD 0).toNat digits else .null

/-- The number that a text begins with: its longest beginning that is a number. -/
def parseNumber (s : List Char) : Value :=
  let s := Text.trimStart s
  let longest := (List.range s.length).reverse.findSome? fun i =>
    Decimal.readFloat? (s.take (i + 1))
  (longest.map ofFloat).getD .null

/-! ## Calls by name -/

/-- A built-in function, if there is one of that name. -/
def builtin? (name : String) (args : List Value) : Option Value :=
  let first := firstArgument args
  match name with
  | "String" => some (.text (if args.isEmpty then "" else first.toText))
  | "Number" => some (if args.isEmpty then ofInt 0 else ofFloat first.toFloat)
  | "Boolean" => some (.bool first.truthy)
  | "parseInt" => some (parseWhole first.toText.toList ((argument? args 1).map Value.toFloat))
  | "parseFloat" => some (parseNumber first.toText.toList)
  | "isNaN" => some (.bool first.toFloat.isNaN)
  | _ => none

/-- **A call by name.** -/
def callFunction (functions : Functions) (s : Scope) (name : String) (args : List Value) :
    Except Fault Value :=
  match functions.get? name with
  | some f => (f args).mapError fun message => .function name message
  | none =>
    if s.contains name then .error (.type (.notFunction name))
    else
      match builtin? name args with
      | some v => .ok v
      | none => .error (.undefinedName name)

/-! ## Namespaces -/

/-- The names of the namespaces. -/
def namespaces : List String := ["JSON", "Math", "Object", "Array"]

/-- Whether a name stands for a namespace where it is used. -/
def isNamespace (s : Scope) (name : String) : Bool := namespaces.contains name && !s.contains name

/-- **A constant of a namespace.** -/
def constant? (s : Scope) (space property : String) : Option Value :=
  if space = "Math" && isNamespace s space then
    if property = "PI" then some (ofFloat 3.141592653589793)
    else if property = "E" then some (ofFloat 2.718281828459045)
    else none
  else none

/-- The larger of two doubles; one that is no number gives way. -/
def larger (x y : Float) : Float :=
  if x.isNaN then y else if y.isNaN then x else if x < y then y else x

/-- The smaller of two doubles; one that is no number gives way. -/
def smaller (x y : Float) : Float :=
  if x.isNaN then y else if y.isNaN then x else if y < x then y else x

/-- A function of the namespace `Math`. -/
def callMath? (name : String) (args : List Value) : Option Float :=
  let first := (firstArgument args).toFloat
  let numbers := args.map Value.toFloat
  match name with
  | "floor" => some first.floor
  | "ceil" => some first.ceil
  | "round" => some (first + 0.5).floor
  | "trunc" => some (truncate first)
  | "abs" => some first.abs
  | "sqrt" => some first.sqrt
  | "pow" => some (first.pow (numberArgument args 1 nan))
  | "max" => some (numbers.foldl larger (-1.0 / 0.0))
  | "min" => some (numbers.foldl smaller (1.0 / 0.0))
  | _ => none

/-- A function of the namespace `Object`. -/
def callObject? (name : String) (args : List Value) : Option Value :=
  let first := firstArgument args
  match name with
  | "keys" => some (.list first.keys)
  | "values" =>
    some (.list (match first with
      | .object fields => fields.map (·.2)
      | .list items => items
      | _ => []))
  | "entries" =>
    some (.list (match first with
      | .object fields => fields.map fun (k, v) => .list [.text k, v]
      | _ => []))
  | _ => none

/-- A function of the namespace `JSON`. -/
def callJson? (name : String) (args : List Value) : Option (Except Fault Value) :=
  let first := firstArgument args
  match name with
  | "stringify" =>
    let indented := (argument? args 2).any fun v => v.toFloat > 0.0
    some (.ok (.text (if indented then Json.pretty first else Json.compact first)))
  | "parse" =>
    match Json.read? first.toText with
    | some v => some (.ok v)
    | none => some (.error (.function "JSON.parse" "invalid JSON"))
  | _ => none

/-- **A function of a namespace.** -/
def callStatic (space name : String) (args : List Value) : Except Fault Value :=
  let result := match space with
    | "JSON" => callJson? name args
    | "Math" => (callMath? name args).map fun x => .ok (ofFloat x)
    | "Object" => (callObject? name args).map .ok
    | "Array" =>
      if name = "isArray" then
        some (.ok (.bool (match argument? args 0 with
          | some (.list _) => true
          | _ => false)))
      else none
    | _ => none
  result.getD (.error (.type (.notFunction (space ++ "." ++ name))))

end Stencil.Script
