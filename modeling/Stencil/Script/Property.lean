import Stencil.Script.Coercion

/-!
# Members of values

Reading and setting a member of a value, and the value that a path of keys leads to.

## Main definitions

* `Stencil.Value.getProperty`, `Stencil.Value.getIndex` — a member by name or by value.
* `Stencil.Value.setIndex` — a value with a member set.
* `Stencil.Value.maxLength` — how far a list can grow.
* `Stencil.Value.at?`, `Stencil.Value.putAt` — the value at the end of a path of keys, and a value
  with another one put there.

## Design

Reading never fails on a value other than nothing: what is not there is nothing.  Setting works on
objects and lists only, and a list grows as far as it takes, up to the length at which the memory
that it would ask for cannot be addressed.  Whether there is so much memory is not considered.  A
path, in contrast, leads only to what is there.
-/

set_option relaxedAutoImplicit false
set_option autoImplicit false

namespace Stencil.Value

open Script

/-! ## Reading -/

/-- **A member by name.** -/
def getProperty (v : Value) (key : String) : Except Fault Value :=
  match v with
  | .null => .error (.type (.readOfNothing key))
  | .text s => .ok (if key = "length" then ofNat s.length else .null)
  | .list items =>
    .ok (if key = "length" then ofNat items.length
      else ((Decimal.readNat? (maxPosition + 1) key.toList).bind (items[·]?)).getD .null)
  | .object fields => .ok ((Fields.get? key fields).getD .null)
  | .bool _ | .number _ => .ok .null

/-- **A member by value:** by position in a list or a text, else by the name that the value is. -/
def getIndex (v key : Value) : Except Fault Value :=
  match v, key.arrayIndex? with
  | .list items, some i => .ok (items[i]?.getD .null)
  | .text s, some i => .ok ((s.toList[i]?.map fun c => .text (String.singleton c)).getD .null)
  | _, _ => v.getProperty key.propertyKey

/-! ## Setting -/

/-- The number of bytes that a value takes up in a list. -/
def valueSize : Nat := 32

/-- **The greatest length that a list can grow to:** its values take up fewer than 2⁶³ bytes. -/
def maxLength : Nat := (Decimal.twoPow 63 - 1) / valueSize

/-- A list with an element set.  The list grows to hold the position, with nothing in
between. -/
def setElement (items : List Value) (i : Nat) (value : Value) : List Value :=
  if i < items.length then items.set i value
  else items ++ List.replicate (i - items.length) .null ++ [value]

/-- **A value with a member set.**  A list that does not hold the position yet has to be able to
grow as far as it takes. -/
def setIndex (target key value : Value) : Except Fault Value :=
  match target with
  | .list items =>
    match key.arrayIndex? with
    | none => .error (.type (.invalidIndex key.toText))
    | some i =>
      if i < items.length ∨ i < maxLength then .ok (.list (setElement items i value))
      else .error .listTooLong
  | .object fields => .ok (.object (Fields.insert key.propertyKey value fields))
  | other => .error (.type (.writeTo other.kind key.propertyKey))

/-! ## Paths -/

/-- The member that a key of a path leads to, if it is there. -/
def child? (v key : Value) : Option Value :=
  match v with
  | .object fields => Fields.get? key.propertyKey fields
  | .list items => key.arrayIndex?.bind (items[·]?)
  | _ => none

/-- A value with the member that a key leads to replaced. -/
def putChild (v key child : Value) : Value :=
  match v with
  | .object fields => .object (Fields.insert key.propertyKey child fields)
  | .list items =>
    match key.arrayIndex? with
    | some i => .list (items.set i child)
    | none => v
  | other => other

/-- **The value at the end of a path,** if all of the path is there. -/
def at? : List Value → Value → Option Value
  | [], v => some v
  | key :: keys, v => (v.child? key).bind (at? keys)

/-- **A value with another one put at the end of a path** that is there. -/
def putAt : List Value → Value → Value → Value
  | [], new, _ => new
  | key :: keys, new, v =>
    match v.child? key with
    | some child => v.putChild key (putAt keys new child)
    | none => v

end Stencil.Value
