import Stencil.Script.Coercion
import Stencil.Script.Expr
import Stencil.Script.Token.Lexer

/-!
# Reading expressions and statements

A recursive-descent reader over lists of tokens.

## Main definitions

* `Stencil.Script.Expr.ofTokens` — the expression that a list of tokens begins with, and the tokens
  behind it.
* `Stencil.Script.Expr.ofText`, `Stencil.Script.Stmt.listOfText` — a whole text as an expression,
  and as statements.

## Design

Every reader takes the tokens that are left and gives back what it has left of them, so a fault
names the token at which reading stops.  A call spends one unit of fuel; `fuelFor` is more than any
list of tokens needs, because at most eight calls pass between one token and the next.
-/

set_option relaxedAutoImplicit false
set_option autoImplicit false

namespace Stencil.Script

/-- The fault of an expectation that the tokens do not meet. -/
def unmet {α : Type} (expected : Expectation) (tokens : List Token) : Except ReadFault α :=
  .error (.unexpected expected tokens.head?)

/-- The tokens behind a symbol that has to be there. -/
def expect (s : Symbol) (tokens : List Token) : Except ReadFault (List Token) :=
  match tokens with
  | .symbol t :: rest => if t = s then .ok rest else unmet (.symbol s) tokens
  | _ => unmet (.symbol s) tokens

/-- A name that has to be there.  The fault shows the token behind the one that is no name. -/
def identifier (tokens : List Token) : Except ReadFault (String × List Token) :=
  match tokens with
  | .word n :: rest => .ok (n, rest)
  | _ => unmet .identifier tokens.tail

/-- Words that begin expressions which are not supported. -/
def unsupportedExpressions : List String := ["new", "function", "delete", "void", "await"]

/-- Words that begin statements which are not supported. -/
def unsupportedStatements : List String :=
  ["function", "return", "break", "continue", "switch", "try", "throw", "do", "class"]

/-- The expression that a word stands for. -/
def Expr.ofWord (n : String) : Expr :=
  if n = "true" then .literal (.bool true)
  else if n = "false" then .literal (.bool false)
  else if n = "null" ∨ n = "undefined" then .literal .null
  else .name n

/-- The fuel that is enough for a list of tokens. -/
def fuelFor (tokens : List Token) : Nat := 16 * tokens.length + 16

/-! ## Expressions -/

mutual

/-- An expression, possibly an assignment. -/
def readAssignment : Nat → List Token → Except ReadFault (Expr × List Token)
  | 0, _ => .error .tooDeep
  | fuel + 1, tokens => do
    let (target, tokens) ← readChoice fuel tokens
    match tokens with
    | .symbol s :: rest =>
      if s = .arrow then .error (.unsupported "arrow function")
      else
        match s.assignment? with
        | none => .ok (target, tokens)
        | some op =>
          if target.isAssignable then do
            let (value, tokens) ← readAssignment fuel rest
            .ok (.assign target op value, tokens)
          else unmet .assignmentTarget tokens
    | _ => .ok (target, tokens)

/-- An expression without an assignment outside brackets, possibly a choice. -/
def readChoice : Nat → List Token → Except ReadFault (Expr × List Token)
  | 0, _ => .error .tooDeep
  | fuel + 1, tokens => do
    let (test, tokens) ← readInfix fuel 0 tokens
    match tokens with
    | .symbol .question :: rest => do
      let (yes, tokens) ← readAssignment fuel rest
      let tokens ← expect .colon tokens
      let (no, tokens) ← readAssignment fuel tokens
      .ok (.choice test yes no, tokens)
    | _ => .ok (test, tokens)

/-- An expression whose infix operators bind at least as tightly as a limit. -/
def readInfix : Nat → Nat → List Token → Except ReadFault (Expr × List Token)
  | 0, _, _ => .error .tooDeep
  | fuel + 1, limit, tokens => do
    let (left, tokens) ← readUnary fuel tokens
    readOperands fuel limit left tokens

/-- An expression that goes on behind its left operand. -/
def readOperands : Nat → Nat → Expr → List Token → Except ReadFault (Expr × List Token)
  | 0, _, _, _ => .error .tooDeep
  | fuel + 1, limit, left, tokens =>
    match tokens with
    | .symbol s :: rest =>
      match s.operator? with
      | none => .ok (left, tokens)
      | some op =>
        if op.precedence < limit then .ok (left, tokens)
        else do
          let (right, tokens) ← readInfix fuel (op.precedence + 1) rest
          readOperands fuel limit (op.apply left right) tokens
    | _ => .ok (left, tokens)

/-- An expression without an infix operator outside brackets. -/
def readUnary : Nat → List Token → Except ReadFault (Expr × List Token)
  | 0, _ => .error .tooDeep
  | fuel + 1, tokens =>
    match tokens with
    | [] => readPostfix fuel []
    | token :: rest =>
      match token.unaryOp? with
      | some op => do
        let (operand, tokens) ← readUnary fuel rest
        .ok (.unary op operand, tokens)
      | none =>
        match token with
        | .symbol s =>
          match s.direction? with
          | some direction => do
            let (target, tokens) ← readUnary fuel rest
            if target.isAssignable then .ok (.update target direction true, tokens)
            else unmet .updateTarget tokens
          | none => readPostfix fuel (token :: rest)
        | .word n =>
          if unsupportedExpressions.contains n then
            .error (.unsupported ("'" ++ n ++ "' expression"))
          else readPostfix fuel (token :: rest)
        | _ => readPostfix fuel (token :: rest)

/-- A chain of links, possibly counted up or down afterwards. -/
def readPostfix : Nat → List Token → Except ReadFault (Expr × List Token)
  | 0, _ => .error .tooDeep
  | fuel + 1, tokens => do
    let (base, tokens) ← readPrimary fuel tokens
    let (e, tokens) ← readLinks fuel base tokens
    match tokens with
    | .symbol s :: rest =>
      match s.direction? with
      | some direction =>
        if e.isAssignable then .ok (.update e direction false, rest) else .ok (e, tokens)
      | none => .ok (e, tokens)
    | _ => .ok (e, tokens)

/-- The links of a chain behind its base. -/
def readLinks : Nat → Expr → List Token → Except ReadFault (Expr × List Token)
  | 0, _, _ => .error .tooDeep
  | fuel + 1, base, tokens =>
    match tokens with
    | .symbol .dot :: rest => do
      let (property, tokens) ← identifier rest
      readLinks fuel (.member base property false) tokens
    | .symbol .optional :: .symbol .openBracket :: rest => do
      let (key, tokens) ← readAssignment fuel rest
      let tokens ← expect .closeBracket tokens
      readLinks fuel (.index base key true) tokens
    | .symbol .optional :: rest => do
      let (property, tokens) ← identifier rest
      readLinks fuel (.member base property true) tokens
    | .symbol .openBracket :: rest => do
      let (key, tokens) ← readAssignment fuel rest
      let tokens ← expect .closeBracket tokens
      readLinks fuel (.index base key false) tokens
    | .symbol .openParen :: rest => do
      let (args, tokens) ← readItems fuel .closeParen rest
      readLinks fuel (.call base args) tokens
    | _ => .ok (base, tokens)

/-- Expressions between commas up to a closing bracket; a comma may stand before it. -/
def readItems : Nat → Symbol → List Token → Except ReadFault (List Expr × List Token)
  | 0, _, _ => .error .tooDeep
  | fuel + 1, close, tokens => do
    if let .symbol s :: rest := tokens then
      if s = close then return ([], rest)
    let (item, tokens) ← readAssignment fuel tokens
    match tokens with
    | .symbol .comma :: rest => do
      let (items, tokens) ← readItems fuel close rest
      .ok (item :: items, tokens)
    | _ => do
      let tokens ← expect close tokens
      .ok ([item], tokens)

/-- Members between commas up to the closing brace.  A key alone stands for the name too. -/
def readMembers : Nat → List Token → Except ReadFault (List (String × Expr) × List Token)
  | 0, _ => .error .tooDeep
  | fuel + 1, tokens => do
    if let .symbol .closeBrace :: rest := tokens then return ([], rest)
    let (key, behind) ← match tokens with
      | .word n :: rest => .ok (n, rest)
      | .text s :: rest => .ok (s, rest)
      | .number x :: rest => .ok (Decimal.displayText x, rest)
      | _ => unmet .propertyName tokens
    let (value, tokens) ← match behind with
      | .symbol .colon :: rest => readAssignment fuel rest
      | _ => .ok (.name key, behind)
    match tokens with
    | .symbol .comma :: rest => do
      let (entries, tokens) ← readMembers fuel rest
      .ok ((key, value) :: entries, tokens)
    | _ => do
      let tokens ← expect .closeBrace tokens
      .ok ([(key, value)], tokens)

/-- The base of a chain: a value, a name, or something in brackets. -/
def readPrimary : Nat → List Token → Except ReadFault (Expr × List Token)
  | 0, _ => .error .tooDeep
  | fuel + 1, tokens =>
    match tokens with
    | [] => unmet .more []
    | .number x :: rest => .ok (.literal (Value.ofFloat x), rest)
    | .text s :: rest => .ok (.literal (.text s), rest)
    | .word n :: rest => .ok (.ofWord n, rest)
    | .symbol .openParen :: rest => do
      let (e, tokens) ← readAssignment fuel rest
      let tokens ← expect .closeParen tokens
      .ok (e, tokens)
    | .symbol .openBracket :: rest => do
      let (items, tokens) ← readItems fuel .closeBracket rest
      .ok (.list items, tokens)
    | .symbol .openBrace :: rest => do
      let (entries, tokens) ← readMembers fuel rest
      .ok (.object entries, tokens)
    | .symbol _ :: _ => unmet .otherToken tokens

end

/-- **The expression that a list of tokens begins with,** and the tokens behind it. -/
def Expr.ofTokens (tokens : List Token) : Except ReadFault (Expr × List Token) :=
  readAssignment (fuelFor tokens) tokens

/-! ## Statements -/

/-- The end of a statement: a semicolon, or a place where the statements end anyway. -/
def endStatement (tokens : List Token) : Except ReadFault (List Token) :=
  match tokens with
  | [] => .ok []
  | .symbol .semicolon :: rest => .ok rest
  | .symbol .closeBrace :: _ => .ok tokens
  | _ => unmet (.symbol .semicolon) tokens

/-- Declarations between commas. -/
def readDeclarations :
    Nat → List Token → Except ReadFault (List (String × Option Expr) × List Token)
  | 0, _ => .error .tooDeep
  | fuel + 1, tokens => do
    let (n, tokens) ← identifier tokens
    let (value, tokens) ← match tokens with
      | .symbol .assign :: rest => (readAssignment fuel rest).map fun (e, ts) => (some e, ts)
      | _ => .ok (none, tokens)
    match tokens with
    | .symbol .comma :: rest => do
      let (declarations, tokens) ← readDeclarations fuel rest
      .ok ((n, value) :: declarations, tokens)
    | _ => .ok ([(n, value)], tokens)

/-- An expression in parentheses. -/
def readCondition (fuel : Nat) (tokens : List Token) : Except ReadFault (Expr × List Token) := do
  let tokens ← expect .openParen tokens
  let (test, tokens) ← readAssignment fuel tokens
  let tokens ← expect .closeParen tokens
  .ok (test, tokens)

/-- The head of a loop over elements or keys: the name that is bound, whether elements are
visited, and the tokens behind. -/
def iterationHead? (tokens : List Token) : Option (String × Bool × List Token) :=
  let tokens := match tokens with
    | token :: rest => if token.declKind?.isSome then rest else tokens
    | [] => []
  match tokens with
  | .word binding :: .word link :: rest =>
    if link = "of" then some (binding, true, rest)
    else if link = "in" then some (binding, false, rest)
    else none
  | _ => none

/-- What a counting loop starts with, up to its semicolon. -/
def readStart (fuel : Nat) (tokens : List Token) : Except ReadFault (Stmt × List Token) :=
  match tokens with
  | .symbol .semicolon :: rest => .ok (.empty, rest)
  | _ => do
    let (start, tokens) ← match tokens with
      | token :: rest =>
        match token.declKind? with
        | some kind => (readDeclarations fuel rest).map fun (ds, ts) => (.declare kind ds, ts)
        | none => (readAssignment fuel tokens).map fun (e, ts) => (.expr e, ts)
      | [] => (readAssignment fuel []).map fun (e, ts) => (.expr e, ts)
    let tokens ← expect .semicolon tokens
    .ok (start, tokens)

/-- An expression up to a symbol, which may stand there at once. -/
def readOptional (fuel : Nat) (stop : Symbol) (tokens : List Token) :
    Except ReadFault (Option Expr × List Token) := do
  if let .symbol s :: rest := tokens then
    if s = stop then return (none, rest)
  let (e, tokens) ← readAssignment fuel tokens
  let tokens ← expect stop tokens
  .ok (some e, tokens)

mutual

/-- A statement. -/
def readStatement : Nat → List Token → Except ReadFault (Stmt × List Token)
  | 0, _ => .error .tooDeep
  | fuel + 1, tokens =>
    match tokens with
    | .symbol .semicolon :: rest => .ok (.empty, rest)
    | .symbol .openBrace :: rest => do
      let (body, tokens) ← readBlock fuel rest
      .ok (.block body, tokens)
    | .word "var" :: rest => readDeclared fuel .var rest
    | .word "let" :: rest => readDeclared fuel .let rest
    | .word "const" :: rest => readDeclared fuel .const rest
    | .word "if" :: rest => do
      let (test, tokens) ← readCondition fuel rest
      let (yes, tokens) ← readStatement fuel tokens
      match tokens with
      | .word "else" :: rest => do
        let (no, tokens) ← readStatement fuel rest
        .ok (.branch test yes no, tokens)
      | _ => .ok (.branch test yes .empty, tokens)
    | .word "while" :: rest => do
      let (test, tokens) ← readCondition fuel rest
      let (body, tokens) ← readStatement fuel tokens
      .ok (.whileLoop test body, tokens)
    | .word "for" :: rest => do
      let tokens ← expect .openParen rest
      match iterationHead? tokens with
      | some (binding, elements, tokens) => do
        let (source, tokens) ← readAssignment fuel tokens
        let tokens ← expect .closeParen tokens
        let (body, tokens) ← readStatement fuel tokens
        .ok (if elements then .forOf binding source body else .forIn binding source body, tokens)
      | none => do
        let (start, tokens) ← readStart fuel tokens
        let (test, tokens) ← readOptional fuel .semicolon tokens
        let (update, tokens) ← readOptional fuel .closeParen tokens
        let (body, tokens) ← readStatement fuel tokens
        .ok (.forLoop start test update body, tokens)
    | .word n :: rest =>
      if unsupportedStatements.contains n then .error (.unsupported ("'" ++ n ++ "' statement"))
      else readSimple fuel (.word n :: rest)
    | tokens => readSimple fuel tokens
where
  /-- Declarations as a statement. -/
  readDeclared (fuel : Nat) (kind : DeclKind) (tokens : List Token) :
      Except ReadFault (Stmt × List Token) := do
    let (declarations, tokens) ← readDeclarations fuel tokens
    let tokens ← endStatement tokens
    .ok (.declare kind declarations, tokens)
  /-- An expression as a statement. -/
  readSimple (fuel : Nat) (tokens : List Token) : Except ReadFault (Stmt × List Token) := do
    let (e, tokens) ← readAssignment fuel tokens
    let tokens ← endStatement tokens
    .ok (.expr e, tokens)

/-- Statements up to a closing brace. -/
def readBlock : Nat → List Token → Except ReadFault (List Stmt × List Token)
  | 0, _ => .error .tooDeep
  | fuel + 1, tokens =>
    match tokens with
    | .symbol .closeBrace :: rest => .ok ([], rest)
    | [] => unmet (.symbol .closeBrace) []
    | tokens => do
      let (first, tokens) ← readStatement fuel tokens
      let (others, tokens) ← readBlock fuel tokens
      .ok (first :: others, tokens)

end

/-- Statements up to the end. -/
def readStatements : Nat → List Token → Except ReadFault (List Stmt)
  | _, [] => .ok []
  | 0, _ => .error .tooDeep
  | fuel + 1, tokens => do
    let (first, tokens) ← readStatement fuel tokens
    let others ← readStatements fuel tokens
    .ok (first :: others)

/-! ## Whole texts -/

/-- A list of tokens as an expression, which one semicolon may follow. -/
def Expr.ofAllTokens (tokens : List Token) : Except ReadFault Expr := do
  let (e, tokens) ← Expr.ofTokens tokens
  match tokens with
  | [] | [.symbol .semicolon] => .ok e
  | .symbol .semicolon :: rest => unmet .otherToken rest
  | rest => unmet .otherToken rest

/-- **A text as an expression.** -/
def Expr.ofText (code : String) : Except Fault Expr :=
  ((Token.ofChars code.toList).bind Expr.ofAllTokens).mapError fun fault =>
    .unreadable fault code

/-- **A text as statements.** -/
def Stmt.listOfText (code : String) : Except Fault (List Stmt) :=
  ((Token.ofChars code.toList).bind fun tokens =>
    readStatements (fuelFor tokens) tokens).mapError fun fault => .unreadable fault code

end Stencil.Script
