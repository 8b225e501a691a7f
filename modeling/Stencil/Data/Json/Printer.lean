import Stencil.Data.Value

/-!
# JSON text of values

Values written as JSON: compact on one line, or indented by two spaces a level.

## Main definitions

* `Stencil.Json.quote` — a text as a JSON string.
* `Stencil.Json.compact`, `Stencil.Json.pretty` — the two ways to write a value.
-/

set_option relaxedAutoImplicit false
set_option autoImplicit false

namespace Stencil.Json

/-- A hexadecimal digit, in small letters. -/
def hexDigit (n : Nat) : Char := if n < 10 then Char.ofNat (48 + n) else Char.ofNat (87 + n)

/-- A character inside a string.  Quotes, backslashes and control characters are escaped. -/
def escapeChar (c : Char) : List Char :=
  if c = '"' then ['\\', '"']
  else if c = '\\' then ['\\', '\\']
  else if c = '\n' then ['\\', 'n']
  else if c = '\r' then ['\\', 'r']
  else if c = '\t' then ['\\', 't']
  else if c.toNat = 8 then ['\\', 'b']
  else if c.toNat = 12 then ['\\', 'f']
  else if c.toNat < 32 then
    ['\\', 'u', '0', '0', hexDigit (c.toNat / 16), hexDigit (c.toNat % 16)]
  else [c]

/-- **A text as a JSON string,** quotes included. -/
def quote (s : String) : String :=
  String.ofList ('"' :: s.toList.flatMap escapeChar ++ ['"'])

mutual

/-- **A value on one line,** without any white space. -/
def compact : Value → String
  | .null => "null"
  | .bool b => if b then "true" else "false"
  | .number n => n.dataText
  | .text s => quote s
  | .list items => "[" ++ String.intercalate "," (compactList items) ++ "]"
  | .object fields => "\x7b" ++ String.intercalate "," (compactFields fields) ++ "\x7d"

/-- The elements of a list, each on one line. -/
def compactList : List Value → List String
  | [] => []
  | x :: xs => compact x :: compactList xs

/-- The members of an object, each on one line. -/
def compactFields : List (String × Value) → List String
  | [] => []
  | (k, x) :: rest => (quote k ++ ":" ++ compact x) :: compactFields rest

end

/-- A line break and the indentation of a level. -/
def newline (level : Nat) : String := "\n" ++ String.ofList (List.replicate (2 * level) ' ')

/-- Entries on lines of their own between two brackets; no line for none. -/
def block (level : Nat) (opener closer : String) (entries : List String) : String :=
  if entries.isEmpty then opener ++ closer
  else opener ++ newline (level + 1) ++ String.intercalate ("," ++ newline (level + 1)) entries ++
    newline level ++ closer

mutual

/-- A value over several lines, at a level of indentation. -/
def prettyAt (level : Nat) : Value → String
  | .list items => block level "[" "]" (prettyList (level + 1) items)
  | .object fields => block level "\x7b" "\x7d" (prettyFields (level + 1) fields)
  | .null => "null"
  | .bool b => if b then "true" else "false"
  | .number n => n.dataText
  | .text s => quote s

/-- The elements of a list, each over several lines. -/
def prettyList (level : Nat) : List Value → List String
  | [] => []
  | x :: xs => prettyAt level x :: prettyList level xs

/-- The members of an object, each over several lines. -/
def prettyFields (level : Nat) : List (String × Value) → List String
  | [] => []
  | (k, x) :: rest => (quote k ++ ": " ++ prettyAt level x) :: prettyFields level rest

end

/-- **A value over several lines.** -/
def pretty (v : Value) : String := prettyAt 0 v

end Stencil.Json
