import Stencil.Data.Yaml.Token.Lexer

/-!
# Reading YAML

The part of YAML that settings and data are written in: block mappings, block lists, and scalars,
plain or quoted.  Everything else is refused.

## Main definitions

* `Stencil.Yaml.node?` — the node that some tokens begin with.
* `Stencil.Yaml.ofTokens?` — the document that tokens make up.
* `Stencil.Yaml.read?` — the document of a text.

## Design

A list may stand under a key without a deeper indentation of its own; then no token closes it, and
it ends with the last of its items.  Reading spends fuel on every step; the number of tokens bounds
the steps.
-/

set_option relaxedAutoImplicit false
set_option autoImplicit false

namespace Stencil.Yaml

/-- How many lists and mappings may lie in one another. -/
def nestingLimit : Nat := 128

/-- Nothing, as a node. -/
def empty : Yaml := scalar "" true

mutual

/-- **The node that some tokens begin with,** and the tokens behind it.  There is room for `room`
lists and mappings in one another, and `inMapping` tells that a list may go without indentation. -/
def node? : Nat → Nat → Bool → List Token → Option (Yaml × List Token)
  | fuel + 1, room, inMapping, tokens =>
    match tokens, room with
    | .scalar text plain :: rest, _ => some (.scalar text plain, rest)
    | .listOpen :: rest, room + 1 =>
      (items? fuel room true rest).map fun (items, rest) => (list items, rest)
    | .item :: rest, room + 1 =>
      if inMapping then
        (items? fuel room false (.item :: rest)).map fun (items, rest) => (list items, rest)
      else none
    | .mappingOpen :: rest, room + 1 =>
      (entries? fuel room rest).map fun (entries, rest) => (mapping entries, rest)
    | _, _ => none
  | 0, _, _, _ => none

/-- The items of a list, and the tokens behind it.  An indented list is closed by a token, any
other ends with its last item. -/
def items? : Nat → Nat → Bool → List Token → Option (List Yaml × List Token)
  | fuel + 1, room, indented, .item :: rest => do
    let (node, rest) ←
      match rest.head? with
      | some .item | some .close => some (empty, rest)
      | some token =>
        if token.endsNode ∧ ¬ indented then some (empty, rest) else node? fuel room false rest
      | none => none
    let (nodes, rest) ← items? fuel room indented rest
    return (node :: nodes, rest)
  | _ + 1, _, true, .close :: rest => some ([], rest)
  | _ + 1, _, false, rest => some ([], rest)
  | _, _, _, _ => none

/-- The entries of a mapping, and the tokens behind it.  A key has to be a scalar. -/
def entries? : Nat → Nat → List Token → Option (List (String × Yaml) × List Token)
  | fuel + 1, room, .key :: rest => do
    let (key, rest) ← part? fuel room rest
    let (node, rest) ←
      match rest with
      | .value :: rest => part? fuel room rest
      | rest => some (empty, rest)
    let (entries, rest) ← entries? fuel room rest
    return ((← key.text?, node) :: entries, rest)
  | _ + 1, _, .close :: rest => some ([], rest)
  | _, _, _ => none

/-- A key or a value, which may be left out. -/
def part? : Nat → Nat → List Token → Option (Yaml × List Token)
  | fuel + 1, room, tokens =>
    if tokens.head?.any Token.endsNode then some (empty, tokens) else node? fuel room true tokens
  | 0, _, _ => none

end

/-- **The document that tokens make up.**  A mark may stand before it and marks may end it; an empty
document is nothing. -/
def ofTokens? (tokens : List Token) : Option Yaml :=
  let fuel := 4 * tokens.length + 4
  let content := match tokens with
    | [] => some (empty, [])
    | .documentStart :: rest =>
      match rest with
      | [] | .documentStart :: _ | .documentEnd :: _ => some (empty, rest)
      | _ => node? fuel nestingLimit false rest
    | _ => node? fuel nestingLimit false tokens
  match content with
  | some (node, behind) => if behind.all (· == .documentEnd) then some node else none
  | none => none

/-- **The document of a text.** -/
def read? (text : String) : Option Yaml := (tokens? text).bind ofTokens?

end Stencil.Yaml
