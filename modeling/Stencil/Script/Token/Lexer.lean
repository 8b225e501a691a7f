import Stencil.Decimal.Numeral
import Stencil.Script.Fault
import Stencil.Text.Blank
import Stencil.Text.Search

/-!
# Reading tokens

Code is cut into tokens from left to right; white space and comments stand between them.

## Main definitions

* `Stencil.Script.Lexeme.next` — the token that a text begins with, if it does not begin with white
  space or a comment, and the text behind it.
* `Stencil.Script.Token.ofChars` — all tokens of a text.

## Main results

* `Lexeme.length_next` — a step leaves less text than there was.
* `Token.ofChars_nil`, `Token.ofChars_cons`, `Token.ofChars_cons_ok` — the tokens of a text, one
  step at a time.
-/

set_option relaxedAutoImplicit false
set_option autoImplicit false

namespace Stencil.Script

/-- The characters that a name begins with. -/
def isNameStart (c : Char) : Bool := Text.isAlphabetic c || c == '_' || c == '$'

/-- The characters that a name goes on with. -/
def isNamePart (c : Char) : Bool := Text.isAlphanumeric c || c == '_' || c == '$'

namespace Lexeme

/-! ## Strings -/

/-- The character of four hexadecimal digits.  A plus sign may stand for the first of them. -/
def escaped? (digits : List Char) : Option Char :=
  let ds := match digits with
    | '+' :: rest => rest
    | ds => ds
  if ds.isEmpty then none
  else
    match ds.mapM (Decimal.digitIn? 16) with
    | none => none
    | some values =>
      let n := values.foldl (fun n d => 16 * n + d) 0
      if n.isValidChar then some (Char.ofNat n) else none

/-- The character of an escape with one letter, if it is not the letter itself. -/
def simpleEscape (c : Char) : List Char :=
  if c = 'n' then ['\n']
  else if c = 't' then ['\t']
  else if c = 'r' then ['\r']
  else if c = '0' then [Char.ofNat 0]
  else if c = '\n' then []
  else [c]

/-- Characters in front of the rest of a string. -/
def prepend (front : List Char) :
    Except ReadFault (List Char × List Char) → Except ReadFault (List Char × List Char)
  | .ok (s, behind) => .ok (front ++ s, behind)
  | .error fault => .error fault

/-- The rest of a string up to its closing quote, and the text behind it.  A string ends on the
line on which it begins, unless the line break is escaped. -/
def readString (quote : Char) : List Char → Except ReadFault (List Char × List Char)
  | [] => .error .unterminatedString
  | '\\' :: 'u' :: a :: b :: c :: d :: rest =>
    match escaped? [a, b, c, d] with
    | some x => prepend [x] (readString quote rest)
    | none => .error .invalidEscape
  | '\\' :: 'u' :: short =>
    if (escaped? short).isSome then .error .unterminatedString else .error .invalidEscape
  | '\\' :: c :: rest => prepend (simpleEscape c) (readString quote rest)
  | c :: rest =>
    if c = quote then .ok ([], rest)
    else if c = '\\' ∨ c = '\n' then .error .unterminatedString
    else prepend [c] (readString quote rest)

/-! ## Numbers -/

/-- The sign that a text begins with, if there is one, and the text behind it. -/
def takeSign : List Char → List Char × List Char
  | '+' :: rest => (['+'], rest)
  | '-' :: rest => (['-'], rest)
  | s => ([], s)

/-- The exponent that a text begins with, and the text behind it.  A mark that no digit follows
is none. -/
def takeExponent : List Char → List Char × List Char
  | [] => ([], [])
  | mark :: rest =>
    let digits := (takeSign rest).2
    if (mark = 'e' ∨ mark = 'E') ∧ digits.head?.any Text.isDigit then
      (mark :: (takeSign rest).1 ++ digits.takeWhile Text.isDigit, digits.dropWhile Text.isDigit)
    else ([], mark :: rest)

/-- A digit or a point. -/
def isDigitOrPoint (c : Char) : Bool := Text.isDigit c || c == '.'

/-- The number that begins with a character, and the text behind it. -/
def readNumber (c : Char) (rest : List Char) : Except ReadFault (Float × List Char) :=
  let (e, behind) := takeExponent (rest.dropWhile isDigitOrPoint)
  let text := c :: rest.takeWhile isDigitOrPoint ++ e
  match Decimal.readMagnitude? text with
  | some x => .ok (x, behind)
  | none => .error (.invalidNumber (String.ofList text))

/-! ## Symbols -/

/-- The symbol that a text begins with, and the text behind it.  A question mark before a
fraction is one of its own: `a ?.5 : b` is a choice. -/
def symbol? (s : List Char) : Option (Symbol × List Char) :=
  Symbol.all.findSome? fun symbol =>
    match Text.dropPrefix? symbol.text.toList s with
    | none => none
    | some rest =>
      if symbol = .optional ∧ rest.head?.any Text.isDigit then none else some (symbol, rest)

/-! ## Steps -/

/-- **The token that a text begins with,** if it does not begin with white space or a comment, and
the text behind it. -/
def next (c : Char) (rest : List Char) : Except ReadFault (Option Token × List Char) :=
  if Text.isBlank c then .ok (none, rest)
  else if c = '/' ∧ rest.head? = some '/' then .ok (none, rest.dropWhile (· ≠ '\n'))
  else if c = '/' ∧ rest.head? = some '*' then
    match Text.splitFirst? ['*', '/'] rest.tail with
    | some (_, behind) => .ok (none, behind)
    | none => .error .unterminatedComment
  else if Text.isDigit c || (c == '.' && rest.head?.any Text.isDigit) then
    match readNumber c rest with
    | .ok (x, behind) => .ok (some (.number x), behind)
    | .error fault => .error fault
  else if c = '"' ∨ c = '\'' then
    match readString c rest with
    | .ok (s, behind) => .ok (some (.text (String.ofList s)), behind)
    | .error fault => .error fault
  else if c.toNat = 0x60 then .error (.unsupported "template literal")
  else if isNameStart c then
    .ok (some (.word (String.ofList (c :: rest.takeWhile isNamePart))),
      rest.dropWhile isNamePart)
  else
    match symbol? (c :: rest) with
    | some (symbol, behind) => .ok (some (.symbol symbol), behind)
    | none => .error (.unexpectedCharacter c)

/-! ## Progress -/

/-- What is put in front of a text that is read leaves what stands behind it. -/
theorem eq_ok_of_prepend {front t behind : List Char}
    {r : Except ReadFault (List Char × List Char)} (h : prepend front r = .ok (t, behind)) :
    ∃ s, r = .ok (s, behind) := by
  cases r with
  | error fault => simp [prepend] at h
  | ok p =>
    obtain ⟨s, b⟩ := p
    simp only [prepend, Except.ok.injEq, Prod.mk.injEq] at h
    exact ⟨s, by rw [h.2]⟩

/-- A string leaves no more text than there was. -/
theorem length_readString {quote : Char} {s t behind : List Char}
    (h : readString quote s = .ok (t, behind)) : behind.length ≤ s.length := by
  fun_induction readString quote s generalizing t with
  | case1 => simp at h
  | case2 a b c d rest x hx ih =>
    obtain ⟨u, hu⟩ := eq_ok_of_prepend h
    have := ih hu
    simp only [List.length_cons]; omega
  | case3 => simp at h
  | case4 => simp at h
  | case5 => simp at h
  | case6 c rest _ _ ih =>
    obtain ⟨u, hu⟩ := eq_ok_of_prepend h
    have := ih hu
    simp only [List.length_cons]; omega
  | case7 =>
    simp only [Except.ok.injEq, Prod.mk.injEq] at h
    simp [← h.2]
  | case8 => simp at h
  | case9 c rest _ _ _ _ _ ih =>
    obtain ⟨u, hu⟩ := eq_ok_of_prepend h
    have := ih hu
    simp only [List.length_cons]; omega

/-- Nor does a sign. -/
theorem length_takeSign (s : List Char) : (takeSign s).2.length ≤ s.length := by
  fun_cases takeSign s <;> simp

/-- Nor does an exponent. -/
theorem length_takeExponent (s : List Char) : (takeExponent s).2.length ≤ s.length := by
  cases s with
  | nil => simp [takeExponent]
  | cons mark rest =>
    have hsign := length_takeSign rest
    have hdrop := (List.dropWhile_suffix Text.isDigit (l := (takeSign rest).2)).length_le
    simp only [takeExponent]
    split
    · simp only [List.length_cons]; omega
    · simp

/-- Nor does a number. -/
theorem length_readNumber {c : Char} {rest behind : List Char} {x : Float}
    (h : readNumber c rest = .ok (x, behind)) : behind.length ≤ rest.length := by
  unfold readNumber at h
  dsimp only at h
  split at h
  · simp only [Except.ok.injEq, Prod.mk.injEq] at h
    rw [← h.2]
    exact Nat.le_trans (length_takeExponent _) (List.dropWhile_suffix _).length_le
  · simp at h

/-- A symbol leaves less text than there was. -/
theorem length_symbol? {c : Char} {rest behind : List Char} {symbol : Symbol}
    (h : symbol? (c :: rest) = some (symbol, behind)) : behind.length ≤ rest.length := by
  obtain ⟨s, -, hs⟩ := List.exists_of_findSome?_eq_some h
  split at hs
  · simp at hs
  · rename_i r hr
    split at hs
    · simp at hs
    · simp only [Option.some.injEq, Prod.mk.injEq] at hs
      obtain ⟨rfl, rfl⟩ := hs
      have happ := congrArg List.length (Text.dropPrefix?_eq_some_iff.1 hr)
      have hpos : 0 < s.text.toList.length := by cases s <;> decide
      simp only [List.length_cons, List.length_append] at happ
      omega

/-- A step leaves less text than there was.

**Proof sketch.** The cases of a step: each cuts off a run of characters, or gives to one of the
readers what is behind the first character. -/
theorem length_next {c : Char} {rest behind : List Char} {token : Option Token}
    (h : next c rest = .ok (token, behind)) : behind.length ≤ rest.length := by
  unfold next at h
  split at h
  · simp_all
  split at h
  · simp only [Except.ok.injEq, Prod.mk.injEq] at h
    exact h.2 ▸ (List.dropWhile_suffix _).length_le
  split at h
  · split at h
    · rename_i before behind' hsplit
      have happ := congrArg List.length (Text.splitFirst?_append hsplit)
      simp only [Except.ok.injEq, Prod.mk.injEq] at h
      obtain ⟨-, rfl⟩ := h
      simp only [List.length_append, List.length_tail] at happ
      omega
    · simp at h
  split at h
  · split at h
    · rename_i hnum
      simp only [Except.ok.injEq, Prod.mk.injEq] at h
      exact h.2 ▸ length_readNumber hnum
    · simp at h
  split at h
  · split at h
    · rename_i hstr
      simp only [Except.ok.injEq, Prod.mk.injEq] at h
      exact h.2 ▸ length_readString hstr
    · simp at h
  split at h
  · simp at h
  split at h
  · simp only [Except.ok.injEq, Prod.mk.injEq] at h
    exact h.2 ▸ (List.dropWhile_suffix _).length_le
  split at h
  · rename_i hsym
    simp only [Except.ok.injEq, Prod.mk.injEq] at h
    exact h.2 ▸ length_symbol? hsym
  · simp at h

end Lexeme

/-- **The tokens of a text.** -/
def Token.ofChars : List Char → Except ReadFault (List Token)
  | [] => .ok []
  | c :: rest =>
    match _h : Lexeme.next c rest with
    | .error fault => .error fault
    | .ok (token, behind) =>
      match Token.ofChars behind with
      | .error fault => .error fault
      | .ok tokens => .ok (token.toList ++ tokens)
termination_by s => s.length
decreasing_by
  simp only [List.length_cons]
  exact Nat.lt_succ_of_le (Lexeme.length_next _h)

/-- No text, no tokens. -/
theorem Token.ofChars_nil : Token.ofChars [] = .ok [] := by
  rw [Token.ofChars.eq_def]

/-- The first token of a text, if there is one, and those behind it. -/
theorem Token.ofChars_cons {c : Char} {rest behind : List Char} {token : Option Token}
    (h : Lexeme.next c rest = .ok (token, behind)) :
    Token.ofChars (c :: rest) = (Token.ofChars behind).map (token.toList ++ ·) := by
  rw [Token.ofChars.eq_def]
  dsimp only
  split
  · next fault hfault =>
    rw [h] at hfault
    cases hfault
  · next token' behind' hok =>
    rw [h] at hok
    cases hok
    cases Token.ofChars behind <;> rfl

/-- The tokens of a text, given its first one and those behind it. -/
theorem Token.ofChars_cons_ok (token : Option Token) {c : Char} {rest behind : List Char}
    {tokens : List Token} (h : Lexeme.next c rest = .ok (token, behind))
    (hbehind : Token.ofChars behind = .ok tokens) :
    Token.ofChars (c :: rest) = .ok (token.toList ++ tokens) := by
  rw [Token.ofChars_cons h, hbehind]
  rfl

end Stencil.Script
