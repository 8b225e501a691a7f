import Stencil.Decimal.Shortest

/-!
# Tokens of the script language

## Main definitions

* `Stencil.Script.Symbol` — operators and brackets.
* `Stencil.Script.Token` — a number, a string, a word or a symbol.
* `Stencil.Script.Token.describe` — how a token is shown in a report.
-/

set_option relaxedAutoImplicit false
set_option autoImplicit false

namespace Stencil.Script

/-- **An operator or a bracket.** -/
inductive Symbol where
  | strictEq
  | strictNe
  | eq
  | ne
  | le
  | ge
  | andAnd
  | orOr
  | nullish
  | optional
  | increment
  | decrement
  | plusAssign
  | minusAssign
  | timesAssign
  | slashAssign
  | arrow
  | openBrace
  | closeBrace
  | openParen
  | closeParen
  | openBracket
  | closeBracket
  | semicolon
  | comma
  | dot
  | question
  | colon
  | assign
  | plus
  | minus
  | times
  | slash
  | percent
  | bang
  | lt
  | gt
  deriving DecidableEq, Repr

namespace Symbol

/-- How a symbol is written. -/
def text : Symbol → String
  | strictEq => "==="
  | strictNe => "!=="
  | eq => "=="
  | ne => "!="
  | le => "<="
  | ge => ">="
  | andAnd => "&&"
  | orOr => "||"
  | nullish => "??"
  | optional => "?."
  | increment => "++"
  | decrement => "--"
  | plusAssign => "+="
  | minusAssign => "-="
  | timesAssign => "*="
  | slashAssign => "/="
  | arrow => "=>"
  | openBrace => "\x7b"
  | closeBrace => "\x7d"
  | openParen => "("
  | closeParen => ")"
  | openBracket => "["
  | closeBracket => "]"
  | semicolon => ";"
  | comma => ","
  | dot => "."
  | question => "?"
  | colon => ":"
  | assign => "="
  | plus => "+"
  | minus => "-"
  | times => "*"
  | slash => "/"
  | percent => "%"
  | bang => "!"
  | lt => "<"
  | gt => ">"

/-- All symbols, in the order in which they are tried.  A longer symbol comes before the symbol
that it begins with. -/
def all : List Symbol :=
  [strictEq, strictNe, eq, ne, le, ge, andAnd, orOr, nullish, optional, increment, decrement,
    plusAssign, minusAssign, timesAssign, slashAssign, arrow, openBrace, closeBrace, openParen,
    closeParen, openBracket, closeBracket, semicolon, comma, dot, question, colon, assign, plus,
    minus, times, slash, percent, bang, lt, gt]

end Symbol

/-- **A token.** -/
inductive Token where
  /-- A number. -/
  | number (x : Float)
  /-- A string, without its quotes and escapes. -/
  | text (s : String)
  /-- A name or a keyword. -/
  | word (s : String)
  /-- A symbol. -/
  | symbol (s : Symbol)

/-- **How a token is shown in a report.** -/
def Token.describe : Token → String
  | number x => Decimal.displayText x
  | text s => "'" ++ s ++ "'"
  | word s => "'" ++ s ++ "'"
  | symbol s => "'" ++ s.text ++ "'"

end Stencil.Script
