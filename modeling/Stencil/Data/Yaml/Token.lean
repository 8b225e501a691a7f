import Stencil.Data.Yaml

/-!
# Tokens of YAML

What a YAML text is made of once its layout is told: an indentation that opens or closes a block is
a token of its own, so that the nodes of a document follow from its tokens alone.

## Main definitions

* `Stencil.Yaml.Token` — a scalar, an indicator, or the beginning or end of a block.
* `Stencil.Yaml.Token.endsNode` — the tokens that stand where a node was left out.
-/

set_option relaxedAutoImplicit false
set_option autoImplicit false

namespace Stencil.Yaml

/-- **A token.** -/
inductive Token where
  /-- A scalar; a plain one stands without quotes. -/
  | scalar (text : String) (plain : Bool)
  /-- A list begins, deeper than what stands around it. -/
  | listOpen
  /-- A mapping begins, deeper than what stands around it. -/
  | mappingOpen
  /-- The innermost list or mapping ends. -/
  | close
  /-- A dash: an item of a list follows. -/
  | item
  /-- A key of a mapping follows. -/
  | key
  /-- A colon: the value of a key follows. -/
  | value
  /-- The mark at the beginning of a document. -/
  | documentStart
  /-- The mark at the end of a document. -/
  | documentEnd
  deriving DecidableEq

/-- **The tokens that no node of a mapping begins with:** one of them stands where a key or a value
was left out. -/
def Token.endsNode : Token → Bool
  | close | key | value => true
  | _ => false

end Stencil.Yaml
