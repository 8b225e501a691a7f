import Stencil.Decimal.Shortest

/-!
# Values

The data that templates are rendered with and that scripts compute on: the tree of nothing, truth
values, numbers, texts, lists and objects.

## Main definitions

* `Stencil.Number` — a whole number or a double.
* `Stencil.Value` — a data value.
* `Stencil.Fields` — the members of an object, in the order of their keys.
* `Stencil.Value.display` — the text that a value contributes to the output.
* `Stencil.Value.truthy` — how a value counts as a condition.
* `Stencil.Value.elements`, `Stencil.Value.keys` — what loops visit.

## Main results

* `Fields.get?_insert_same`, `Fields.get?_insert_other` — an insertion is read back, and disturbs no
  other key.

## Design

A whole number and a double of the same size are different values with different texts in data
output (`1` and `1.0`), so `Number` keeps them apart.  Objects are association lists sorted by key;
`Fields.insert` keeps them so, and the order of code points is also the order of encoded bytes.
-/

set_option relaxedAutoImplicit false
set_option autoImplicit false

namespace Stencil

/-! ## Numbers -/

/-- **A number:** a whole number from `-2 ^ 63` to `2 ^ 64 - 1`, or a finite double. -/
inductive Number where
  /-- A number that is written without a fraction. -/
  | integer (n : Int)
  /-- A finite double. -/
  | float (x : Float)

namespace Number

/-- Whether a whole number is in the range of whole numbers: it fits into 64 bits, with or
without a sign. -/
def fits (n : Int) : Bool := -(Decimal.twoPow 63 : Int) ≤ n && n < (Decimal.twoPow 64 : Int)

/-- The double nearest to a number. -/
def toFloat : Number → Float
  | integer n => Float.ofInt n
  | float x => x

/-- Whether two numbers are stored alike.  A whole number is never stored like a double. -/
def equal : Number → Number → Bool
  | integer m, integer n => m == n
  | float x, float y => x == y
  | _, _ => false

/-- The text of a number in data output. -/
def dataText : Number → String
  | integer n => String.ofList (Decimal.signed (n < 0) (Decimal.digitsOf n.natAbs))
  | float x => (Decimal.dataText x).getD "null"

/-- The text of a number in template output. -/
def display (n : Number) : String := Decimal.displayText n.toFloat

end Number

/-! ## Members -/

/-- **Members of an object:** keys with what they hold, sorted by key. -/
abbrev Fields (α : Type) := List (String × α)

namespace Fields

variable {α : Type}

/-- What a key holds. -/
def get? (key : String) : Fields α → Option α
  | [] => none
  | (k, v) :: rest => if k = key then some v else get? key rest

/-- Whether a key is present. -/
def contains (key : String) (fields : Fields α) : Bool := (get? key fields).isSome

/-- Members with a key set.  A key that is present keeps its place, a new one goes where the
order puts it. -/
def insert (key : String) (value : α) : Fields α → Fields α
  | [] => [(key, value)]
  | (k, v) :: rest =>
    if k = key then (key, value) :: rest
    else if key < k then (key, value) :: (k, v) :: rest
    else (k, v) :: insert key value rest

/-- Members set one after the other. -/
def ofList (entries : List (String × α)) : Fields α :=
  entries.foldl (fun fields (k, v) => fields.insert k v) []

/-- Members without a key. -/
def erase (key : String) (fields : Fields α) : Fields α := fields.filter (·.1 ≠ key)

/-- The members of one object laid over those of another, whose own values give way. -/
def override (base upper : Fields α) : Fields α :=
  upper.foldl (fun fields (k, v) => fields.insert k v) base

/-- An inserted value is read back. -/
@[simp]
theorem get?_insert_same (key : String) (value : α) (fields : Fields α) :
    get? key (insert key value fields) = some value := by
  induction fields with
  | nil => simp [insert, get?]
  | cons entry rest ih =>
    simp only [insert]
    split
    · simp [get?]
    · rename_i h
      split <;> simp [get?, h, ih]

/-- An insertion disturbs no other key. -/
theorem get?_insert_other {key other : String} (h : other ≠ key) (value : α) (fields : Fields α) :
    get? other (insert key value fields) = get? other fields := by
  have hk : key ≠ other := fun e => h e.symm
  induction fields with
  | nil => simp [insert, get?, hk]
  | cons entry rest ih =>
    obtain ⟨k, v⟩ := entry
    simp only [insert]
    split
    · rename_i he
      subst he
      simp [get?, hk]
    · split
      · simp [get?, hk]
      · simp [get?, ih]

end Fields

/-! ## Values -/

/-- **A data value.** -/
inductive Value where
  /-- Nothing; it also stands for what is not there. -/
  | null
  /-- A truth value. -/
  | bool (b : Bool)
  /-- A number. -/
  | number (n : Number)
  /-- A text. -/
  | text (s : String)
  /-- A list. -/
  | list (items : List Value)
  /-- An object. -/
  | object (fields : List (String × Value))

namespace Value

instance : Inhabited Value := ⟨.null⟩

/-- A whole number as a value. -/
def ofInt (n : Int) : Value := .number (.integer n)

/-- A count as a value. -/
def ofNat (n : Nat) : Value := ofInt n

/-- Whether a value is nothing. -/
def isNull : Value → Bool
  | .null => true
  | _ => false

mutual

/-- Whether two values are stored alike, at every depth. -/
def same : Value → Value → Bool
  | .null, .null => true
  | .bool a, .bool b => a == b
  | .number m, .number n => m.equal n
  | .text s, .text t => s == t
  | .list xs, .list ys => sameList xs ys
  | .object xs, .object ys => sameFields xs ys
  | _, _ => false

/-- Whether two lists are stored alike. -/
def sameList : List Value → List Value → Bool
  | [], [] => true
  | x :: xs, y :: ys => same x y && sameList xs ys
  | _, _ => false

/-- Whether two objects are stored alike. -/
def sameFields : List (String × Value) → List (String × Value) → Bool
  | [], [] => true
  | (j, x) :: xs, (k, y) :: ys => j == k && same x y && sameFields xs ys
  | _, _ => false

end

mutual

/-- **The text that a value contributes to the output.**  Nothing shows nothing, a list shows its
elements between commas, and every object shows alike. -/
def display : Value → String
  | .null => ""
  | .bool b => if b then "true" else "false"
  | .number n => n.display
  | .text s => s
  | .list items => String.intercalate "," (displayList items)
  | .object _ => "[object Object]"

/-- The texts of the elements of a list. -/
def displayList : List Value → List String
  | [] => []
  | x :: xs => display x :: displayList xs

end

/-- The texts of a list's elements are the elements' texts. -/
theorem displayList_eq_map (items : List Value) : displayList items = items.map display := by
  induction items with
  | nil => rfl
  | cons x xs ih => simp [displayList, ih]

/-- **How a value counts as a condition.**  Nothing, `false`, zero and the empty text count as
false. -/
def truthy : Value → Bool
  | .null => false
  | .bool b => b
  | .number n => let x := n.toFloat; !(x == 0.0 || x.isNaN)
  | .text s => s ≠ ""
  | .list _ | .object _ => true

/-- The characters of a text, each as a text of its own. -/
def characters (s : String) : List Value := s.toList.map fun c => .text (String.singleton c)

/-- The positions of a sequence, as texts. -/
def positions (count : Nat) : List Value :=
  (List.range count).map fun i => .text (String.ofList (Decimal.digitsOf i))

/-- What a loop over the elements visits: the elements of a list or the characters of a text.
Nothing else has elements. -/
def elements? : Value → Option (List Value)
  | .list items => some items
  | .text s => some (characters s)
  | _ => none

/-- **What a loop over the keys visits:** the keys of an object, or the positions in a list or a
text. -/
def keys : Value → List Value
  | .object fields => fields.map fun (k, _) => .text k
  | .list items => positions items.length
  | .text s => positions s.length
  | _ => []

end Value

end Stencil
