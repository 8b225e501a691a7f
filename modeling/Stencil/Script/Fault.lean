import Stencil.Script.Token

/-!
# Faults

Everything that can go wrong while code from a template is read or run.  A fault is a cause; its
wording is in one place.

## Main definitions

* `Stencil.Script.ReadFault` — code that cannot be read.
* `Stencil.Script.TypeFault` — an operation on a value that does not support it.
* `Stencil.Script.BlockFault` — blocks that do not nest.
* `Stencil.Script.Fault` — any of them, and `Stencil.Script.Fault.message`, its wording.
-/

set_option relaxedAutoImplicit false
set_option autoImplicit false

namespace Stencil.Script

/-- What the grammar asks for at the place where reading stops. -/
inductive Expectation where
  /-- A certain symbol. -/
  | symbol (s : Symbol)
  /-- A name. -/
  | identifier
  /-- The name of a member. -/
  | propertyName
  /-- Something else than this token. -/
  | otherToken
  /-- Anything at all. -/
  | more
  /-- Something that can be assigned to. -/
  | assignmentTarget
  /-- Something that can be counted up or down. -/
  | updateTarget
  deriving DecidableEq, Repr

/-- **Code that cannot be read.** -/
inductive ReadFault where
  /-- A comment without an end. -/
  | unterminatedComment
  /-- Digits and points that are no number. -/
  | invalidNumber (text : String)
  /-- A string without an end. -/
  | unterminatedString
  /-- An escape that denotes no character. -/
  | invalidEscape
  /-- A character that begins no token. -/
  | unexpectedCharacter (c : Char)
  /-- Tokens that the grammar does not allow; the token at which reading stops, unless the code ends
  there. -/
  | unexpected (expected : Expectation) (found : Option Token)
  /-- Code nested too deeply to be read. -/
  | tooDeep
  /-- A construct that is not supported. -/
  | unsupported (construct : String)

/-- The wording of an expectation that is not met. -/
def Expectation.message : Expectation → String
  | symbol s => "Expected '" ++ s.text ++ "'"
  | identifier => "Expected identifier"
  | propertyName => "Expected property name"
  | otherToken => "Unexpected token"
  | more => "Unexpected end of input"
  | assignmentTarget => "Invalid assignment target"
  | updateTarget => "Invalid update target"

/-- The wording of a fault of reading. -/
def ReadFault.message : ReadFault → String
  | unterminatedComment => "Unterminated comment"
  | invalidNumber text => "Invalid number '" ++ text ++ "'"
  | unterminatedString => "Unterminated string literal"
  | invalidEscape => "Invalid unicode escape"
  | unexpectedCharacter c => "Unexpected character '" ++ String.singleton c ++ "'"
  | unexpected expected (some token) => expected.message ++ " near " ++ token.describe
  | unexpected expected none => expected.message ++ " at end of input"
  | tooDeep => "Nested too deeply"
  | unsupported construct => construct

/-- **An operation on a value that does not support it.** -/
inductive TypeFault where
  /-- A member of nothing is read. -/
  | readOfNothing (key : String)
  /-- A member of nothing is set. -/
  | writeToNothing (key : String)
  /-- A member is set of a value that has none. -/
  | writeTo (kind key : String)
  /-- A list is set at what is no position. -/
  | invalidIndex (text : String)
  /-- A value is visited that has no elements. -/
  | notIterable (text : String)
  /-- Something is called that is no function. -/
  | notFunction (name : String)
  /-- Something is assigned to that cannot be. -/
  | invalidTarget
  /-- A fault that an evaluator words itself. -/
  | other (message : String)
  deriving DecidableEq, Repr

/-- The wording of a type fault. -/
def TypeFault.message : TypeFault → String
  | readOfNothing key => "Cannot read properties of undefined (reading '" ++ key ++ "')"
  | writeToNothing key => "Cannot set properties of undefined (setting '" ++ key ++ "')"
  | writeTo kind key => "Cannot set properties of " ++ kind ++ " (setting '" ++ key ++ "')"
  | invalidIndex text => "Invalid array index " ++ text
  | notIterable text => text ++ " is not iterable"
  | notFunction name => name ++ " is not a function"
  | invalidTarget => "Invalid assignment target"
  | other message => message

/-- **Blocks that do not nest.** -/
inductive BlockFault where
  /-- A block is closed where none is open. -/
  | strayClose
  /-- An alternative where no condition is open. -/
  | strayElse
  /-- An alternative behind the last one. -/
  | elseAfterElse
  /-- A scope is left that was not entered. -/
  | strayExit
  /-- A block of an included template is not closed in it. -/
  | openInScope
  /-- A condition is not closed. -/
  | openBranch
  /-- A loop is not closed. -/
  | openLoop
  /-- An extraction is not ended. -/
  | openCapture
  deriving DecidableEq, Repr

/-- The wording of a block fault. -/
def BlockFault.message : BlockFault → String
  | strayClose => "'\x7d' without an open block"
  | strayElse => "'else' without 'if'"
  | elseAfterElse => "'else' after 'else'"
  | strayExit => "include scope closed twice"
  | openInScope => "block left open at the end of an include"
  | openBranch => "'if' block is not closed"
  | openLoop => "loop block is not closed"
  | openCapture => "includeAt without a matching endAt"

/-- **Everything that can go wrong with code.** -/
inductive Fault where
  /-- A name that nothing is bound to. -/
  | undefinedName (name : String)
  /-- An operation on a value that does not support it. -/
  | type (fault : TypeFault)
  /-- Code that cannot be read, with all of the code. -/
  | unreadable (fault : ReadFault) (fragment : String)
  /-- Blocks that do not nest. -/
  | unbalanced (fault : BlockFault)
  /-- An extraction inside another. -/
  | nestedCapture
  /-- The end of an extraction that has not begun. -/
  | strayEndCapture
  /-- A function that fails. -/
  | function (name message : String)
  /-- A list that would have to be longer than any list can be. -/
  | listTooLong

/-- **The wording of a fault.** -/
def Fault.message : Fault → String
  | undefinedName name => name ++ " is not defined"
  | type fault => "TypeError: " ++ fault.message
  | unreadable (.unsupported construct) fragment =>
    "Unsupported " ++ construct ++ " in `" ++ fragment ++ "`"
  | unreadable fault fragment => "SyntaxError: " ++ fault.message ++ " in `" ++ fragment ++ "`"
  | unbalanced fault => "Unbalanced block: " ++ fault.message
  | nestedCapture => "Nested includeAt blocks are not supported"
  | strayEndCapture => "endAt without a matching includeAt"
  | function name message => name ++ "(): " ++ message
  | listTooLong => "RangeError: Invalid array length"

end Stencil.Script
