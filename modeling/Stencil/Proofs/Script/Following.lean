import Stencil.Proofs.Script.Endings

/-!
# Text behind code

What is written behind a text that can be cut into tokens is cut into tokens of its own, if it
begins with a character that no token goes on with.  There is one exception: behind a text in which
a line comment is still open, everything up to the end of the line belongs to that comment.

## Main definitions

* `Stencil.Script.Lexes` — the tokens that have been cut off a text, and what is left of it.
* `Stencil.Script.Separates` — a character that no token goes on with, and no comment begins with.
* `Stencil.Script.EndsInComment` — a text in which a line comment is still open at the end.

## Main results

* `Stencil.Script.Lexeme.next_append` — a step of the reader does not see what follows.
* `Stencil.Script.Lexes.followed` — behind a text, reading goes on with what follows.
* `Stencil.Script.Lexes.swallowed` — behind an open comment, reading goes on with the next line.

## Design

The reader looks ahead, so its steps are judged against the text that really follows: `Lexes` leaves
a rest, and never speaks of a text that is cut short.
-/

set_option relaxedAutoImplicit false
set_option autoImplicit false

namespace Stencil.Script

open Text (isBlank allBlank)

/-! ## Characters between tokens -/

/-- **A character that no token goes on with,** and that begins or ends no comment. -/
structure Separates (x : Char) : Prop where
  /-- Names end before it. -/
  name : isNamePart x = false
  /-- The digits of a number end before it. -/
  number : Lexeme.isDigitOrPoint x = false
  /-- It is no sign of an exponent. -/
  sign : x ≠ '+' ∧ x ≠ '-'
  /-- No symbol has it behind its first character. -/
  symbol : ∀ s : Symbol, x ∉ s.text.toList.tail
  /-- It belongs to no mark of a comment. -/
  comment : x ≠ '/' ∧ x ≠ '*'

/-- A closing parenthesis separates. -/
lemma separates_closeParen : Separates ')' :=
  ⟨by decide, by decide, by decide, fun s => by cases s <;> decide, by decide⟩

/-- So does a line break. -/
lemma separates_newline : Separates '\n' :=
  ⟨by decide, by decide, by decide, fun s => by cases s <;> decide, by decide⟩

/-- So does a space. -/
lemma separates_space : Separates ' ' :=
  ⟨by decide, by decide, by decide, fun s => by cases s <;> decide, by decide⟩

namespace Separates

variable {x : Char}

/-- No digit separates. -/
lemma digit (h : Separates x) : Text.isDigit x = false := (Bool.or_eq_false_iff.1 h.number).1

/-- Exponents are marked with letters. -/
lemma mark (h : Separates x) : ¬ (x = 'e' ∨ x = 'E') := by
  rintro (rfl | rfl) <;> exact absurd h.name (by decide)

end Separates

section

variable {α : Type} {p : α → Bool} {x : α}

/-- A run ends before a character that is not of its class, at the latest. -/
lemma takeWhile_append_cons (hx : p x = false) (s more : List α) :
    (s ++ x :: more).takeWhile p = s.takeWhile p := by
  induction s with
  | nil => simp [hx]
  | cons c s ih => simp [List.takeWhile_cons, ih]

/-- What stands behind the run goes on with that character. -/
lemma dropWhile_append_cons (hx : p x = false) (s more : List α) :
    (s ++ x :: more).dropWhile p = s.dropWhile p ++ x :: more := by
  induction s with
  | nil => simp [hx]
  | cons c s ih =>
    simp only [List.cons_append, List.dropWhile_cons, ih]
    split <;> rfl

/-- Whether a text begins with a character of the class is told before that character. -/
lemma any_head?_append_cons (hx : p x = false) (s more : List α) :
    (s ++ x :: more).head?.any p = s.head?.any p := by
  cases s <;> simp [hx]

end

/-- So is whether it begins with another character. -/
lemma head?_append_cons_eq_iff {x y : Char} (hne : x ≠ y) (s more : List Char) :
    (s ++ x :: more).head? = some y ↔ s.head? = some y := by
  cases s <;> simp [hne]

/-! ## One step -/

/-- A line comment that is still open where a text ends. -/
def IsOpenComment (s : List Char) : Prop :=
  ∃ comment, s = '/' :: '/' :: comment ∧ '\n' ∉ comment

namespace Lexeme

variable {x : Char} {more : List Char}

/-- A string is read up to its closing quote, whatever follows.

**Proof sketch.** Induction along the reader.  It ends at the first quote that is not escaped, and
looks at four characters beyond an escape at the most, all of which stand in the string. -/
lemma readString_append_right {quote : Char} (hquote : quote ≠ '\\') {s t behind : List Char}
    (h : readString quote s = .ok (t, behind)) (more : List Char) :
    readString quote (s ++ more) = .ok (t, behind ++ more) := by
  fun_induction readString quote s generalizing t with
  | case1 | case3 | case4 | case5 | case8 => simp at h
  | case2 a b c d rest x hx ih =>
    obtain ⟨u, hu⟩ := eq_ok_of_prepend h
    rw [hu] at h
    cases h
    simp only [List.cons_append, readString, hx, ih hu]
    rfl
  | case6 c rest hlong hshort ih =>
    obtain ⟨u, hu⟩ := eq_ok_of_prepend h
    rw [hu] at h
    cases h
    rw [List.cons_append, List.cons_append, readString, ih hu]
    · rfl
    · exact fun _ _ _ _ _ hc _ => hshort hc
    · exact hshort
  | case7 rest hlong hshort hescape =>
    cases h
    rw [List.cons_append, readString.eq_def]
    split <;> simp_all
  | case9 c rest hlong hshort hescape hc hplain ih =>
    obtain ⟨u, hu⟩ := eq_ok_of_prepend h
    rw [hu] at h
    cases h
    rw [List.cons_append, readString.eq_def]
    split <;> simp_all [prepend]

/-- A sign is cut off alike, whatever stands behind a separating character. -/
lemma takeSign_append_right (hx : Separates x) (s more : List Char) :
    takeSign (s ++ x :: more) = ((takeSign s).1, (takeSign s).2 ++ x :: more) := by
  have hsign := hx.sign
  cases s with
  | nil =>
    unfold takeSign
    split <;> simp_all
  | cons c rest =>
    unfold takeSign
    split <;> simp_all

/-- An exponent ends before a separator. -/
lemma takeExponent_append_right (hx : Separates x) (s more : List Char) :
    takeExponent (s ++ x :: more) = ((takeExponent s).1, (takeExponent s).2 ++ x :: more) := by
  cases s with
  | nil =>
    simp only [List.nil_append, takeExponent]
    rw [if_neg fun h => hx.mark h.1]
  | cons mark rest =>
    simp only [List.cons_append, takeExponent, takeSign_append_right hx,
      any_head?_append_cons hx.digit, takeWhile_append_cons hx.digit,
      dropWhile_append_cons hx.digit]
    split <;> rfl

/-- A number ends before a separator. -/
lemma readNumber_append_right (hx : Separates x) {c : Char} {rest behind : List Char} {n : Float}
    (h : readNumber c rest = .ok (n, behind)) (more : List Char) :
    readNumber c (rest ++ x :: more) = .ok (n, behind ++ x :: more) := by
  unfold readNumber at h ⊢
  simp only [takeWhile_append_cons hx.number, dropWhile_append_cons hx.number,
    takeExponent_append_right hx] at h ⊢
  split at h
  next hvalue =>
    cases h
    rfl
  · cases h

/-- So is a beginning that does not have the character in it. -/
lemma dropPrefix?_append_right {p : List Char} (hx : x ∉ p) (s more : List Char) :
    Text.dropPrefix? p (s ++ x :: more) = (Text.dropPrefix? p s).map (· ++ x :: more) := by
  induction p generalizing s with
  | nil => rfl
  | cons a p ih =>
    rw [List.mem_cons, not_or] at hx
    cases s with
    | nil => simp [Text.dropPrefix?, Ne.symm hx.1]
    | cons c s =>
      simp only [List.cons_append, Text.dropPrefix?]
      split
      · exact ih hx.2 s
      · rfl

/-- A symbol ends before a separator.

**Proof sketch.** No symbol goes over the separator, which is in none of them. -/
lemma symbol?_append_right (hx : Separates x) (c : Char) (rest more : List Char) :
    symbol? (c :: rest ++ x :: more) =
      (symbol? (c :: rest)).map fun p => (p.1, p.2 ++ x :: more) := by
  unfold symbol?
  rw [List.map_findSome?]
  congr 1
  funext symbol
  have htext : Text.dropPrefix? symbol.text.toList (c :: rest ++ x :: more) =
      (Text.dropPrefix? symbol.text.toList (c :: rest)).map (· ++ x :: more) := by
    have htail := hx.symbol symbol
    generalize symbol.text.toList = text at htail
    cases text with
    | nil => rfl
    | cons a p =>
      simp only [List.cons_append, Text.dropPrefix?]
      split
      · exact dropPrefix?_append_right htail rest more
      · rfl
  simp only [htext, Function.comp_apply]
  cases Text.dropPrefix? symbol.text.toList (c :: rest) with
  | none => rfl
  | some behind =>
    simp only [Option.map_some, any_head?_append_cons hx.digit]
    split <;> rfl

/-- A block comment is read up to its end, whatever follows.

**Proof sketch.** Induction on the text.  What is looked for stands at the beginning of the longer
text only if it stands at that of the shorter one, since it occurs in the shorter one and so fits
into it. -/
lemma splitFirst?_append_right {p s before after : List Char}
    (h : Text.splitFirst? p s = some (before, after)) (more : List Char) :
    Text.splitFirst? p (s ++ more) = some (before, after ++ more) := by
  induction s generalizing before with
  | nil =>
    cases p with
    | nil =>
      cases h
      cases more <;> rfl
    | cons a p => cases h
  | cons c s ih =>
    rw [Text.splitFirst?] at h
    rw [List.cons_append, Text.splitFirst?]
    split at h
    next rest hrest =>
      have hmore : Text.dropPrefix? p (c :: (s ++ more)) = some (rest ++ more) := by
        rw [Text.dropPrefix?_eq_some_iff, ← List.cons_append,
          Text.dropPrefix?_eq_some_iff.1 hrest, List.append_assoc]
      cases h
      rw [hmore]
    next hnone =>
      obtain ⟨⟨front, after'⟩, hs, heq⟩ := Option.map_eq_some_iff.1 h
      cases heq
      -- what is looked for fits into the text, so it does not begin in it and end behind it
      have hmore : Text.dropPrefix? p (c :: (s ++ more)) = none := by
        rw [Option.eq_none_iff_forall_ne_some]
        intro rest hrest
        have hlong : p <+: (c :: s) ++ more :=
          ⟨rest, (Text.dropPrefix?_eq_some_iff.1 hrest).symm⟩
        have hlength : p.length ≤ (c :: s).length := by
          rw [← Text.splitFirst?_append hs]
          simp only [List.length_cons, List.length_append]
          omega
        obtain ⟨behind, hbehind⟩ :=
          List.prefix_of_prefix_length_le hlong (List.prefix_append _ _) hlength
        rw [Text.dropPrefix?_eq_some_iff.2 hbehind.symm] at hnone
        cases hnone
      rw [hmore, ih hs]
      rfl

/-- **A step of the reader does not see what follows,** if that begins with a separator and the step
does not stand before a line comment that is still open.

**Proof sketch.** The cases of a step, one after the other.  Names, numbers, strings, block comments
and symbols end before the separator at the latest, so they are cut off alike.  A line comment ends
at a line break, and the text has one, since the comment is not open. -/
theorem next_append (hx : Separates x) {c : Char} {rest behind : List Char} {token : Option Token}
    (h : next c rest = .ok (token, behind)) (hclosed : ¬ IsOpenComment (c :: rest))
    (more : List Char) :
    next c (rest ++ x :: more) = .ok (token, behind ++ x :: more) := by
  unfold next at h ⊢
  simp only [head?_append_cons_eq_iff hx.comment.1, head?_append_cons_eq_iff hx.comment.2,
    any_head?_append_cons hx.digit, takeWhile_append_cons hx.name, dropWhile_append_cons hx.name]
  split at h
  next hc =>
    cases h
    rw [if_pos hc]
  next hc =>
  rw [if_neg hc]
  split at h
  next hline =>
    cases h
    rw [if_pos hline]
    have hbreak : '\n' ∈ rest := by
      by_contra hno
      obtain ⟨comment, rfl⟩ := List.head?_eq_some_iff.1 hline.2
      exact hclosed ⟨comment, by rw [hline.1], fun hmem => hno (List.mem_cons_of_mem _ hmem)⟩
    have hne : rest.dropWhile (· ≠ '\n') ≠ [] := fun hnil => by
      simpa using List.dropWhile_eq_nil_iff.1 hnil _ hbreak
    rw [List.dropWhile_append, if_neg (by simpa using hne)]
  next hline =>
  rw [if_neg hline]
  split at h
  next hblock =>
    rw [if_pos hblock]
    obtain ⟨comment, rfl⟩ := List.head?_eq_some_iff.1 hblock.2
    rw [List.cons_append, List.tail_cons]
    rw [List.tail_cons] at h
    split at h
    next hsplit =>
      cases h
      rw [splitFirst?_append_right hsplit]
    · cases h
  next hblock =>
  rw [if_neg hblock]
  split at h
  next hnumber =>
    rw [if_pos hnumber]
    split at h
    next hread =>
      cases h
      rw [readNumber_append_right hx hread]
    · cases h
  next hnumber =>
  rw [if_neg hnumber]
  split at h
  next hquote =>
    rw [if_pos hquote]
    split at h
    next hread =>
      cases h
      rw [readString_append_right (by rcases hquote with rfl | rfl <;> decide) hread]
    · cases h
  next hquote =>
  rw [if_neg hquote]
  split at h
  · cases h
  next htick =>
  rw [if_neg htick]
  split at h
  next hname =>
    cases h
    rw [if_pos hname]
  next hname =>
  rw [if_neg hname, ← List.cons_append, symbol?_append_right hx]
  split at h
  next hsymbol =>
    cases h
    rw [hsymbol]
    rfl
  · cases h

/-- A step of the reader leaves the end of a text.

**Proof sketch.** The cases of a step: what it cuts off is a run of characters, or what a reader for
numbers, strings or symbols has passed. -/
lemma suffix_of_next {c : Char} {rest behind : List Char} {token : Option Token}
    (h : next c rest = .ok (token, behind)) : behind <:+ rest := by
  unfold next at h
  split at h
  · cases h
    exact List.suffix_rfl
  split at h
  · cases h
    exact List.dropWhile_suffix _
  split at h
  · split at h
    next before _ hsplit =>
      cases h
      exact .trans ⟨before ++ ['*', '/'], Text.splitFirst?_append hsplit⟩ (List.tail_suffix rest)
    · cases h
  split at h
  · split at h
    next hread =>
      cases h
      obtain ⟨used, hused, -⟩ := readNumber_append hread
      exact ⟨used, hused.symm⟩
    · cases h
  split at h
  · split at h
    next hread =>
      cases h
      obtain ⟨inside, rfl⟩ := readString_append hread
      exact (List.suffix_cons ..).trans (List.suffix_append ..)
    · cases h
  split at h
  · cases h
  split at h
  · cases h
    exact List.dropWhile_suffix _
  split at h
  next symbol _ hsymbol =>
    cases h
    have happ := symbol?_append hsymbol
    have hne : symbol.text.toList ≠ [] := by cases symbol <;> decide
    obtain ⟨a, text, htext⟩ := List.exists_cons_of_ne_nil hne
    rw [htext, List.cons_append, List.cons.injEq] at happ
    exact ⟨text, happ.2.symm⟩
  · cases h

end Lexeme

/-! ## Several steps -/

/-- **The tokens that have been cut off a text,** and the rest that the reader stands before. -/
inductive Lexes : List Char → List Token → List Char → Prop
  /-- Nothing has been read. -/
  | done {rest : List Char} : Lexes rest [] rest
  /-- A step of the reader, and more of them. -/
  | step {c : Char} {behind rest left : List Char} (token : Option Token) {tokens : List Token}
      (hnext : Lexeme.next c behind = .ok (token, rest)) (hrest : Lexes rest tokens left) :
    Lexes (c :: behind) (token.toList ++ tokens) left

/-- **A text in which a line comment is still open at the end:** the reader comes to stand before
that comment. -/
def EndsInComment (s : List Char) : Prop :=
  ∃ tokens rest, Lexes s tokens rest ∧ IsOpenComment rest

namespace Lexes

variable {s rest left more : List Char} {tokens others : List Token} {x : Char}

/-- Tokens are cut off one after the other. -/
lemma trans (h : Lexes s tokens rest) (hrest : Lexes rest others left) :
    Lexes s (tokens ++ others) left := by
  induction h with
  | done => exact hrest
  | step _ hnext _ ih =>
    rw [List.append_assoc]
    exact .step _ hnext (ih hrest)

/-- The tokens of a text are those that have been cut off, and those of the rest. -/
lemma ofChars_eq (h : Lexes s tokens rest) :
    Token.ofChars s = (Token.ofChars rest).map (tokens ++ ·) := by
  induction h with
  | @done rest => cases Token.ofChars rest <;> rfl
  | @step _ _ _ left _ _ hnext _ ih =>
    rw [Token.ofChars_cons hnext, ih]
    cases Token.ofChars left <;> simp [Except.map]

/-- A text is cut into its tokens to its end. -/
lemma of_ofChars (h : Token.ofChars s = .ok tokens) : Lexes s tokens [] := by
  fun_induction Token.ofChars s generalizing tokens with
  | case1 =>
    cases h
    exact .done
  | case2 | case3 => cases h
  | case4 c rest token behind hnext others hothers ih =>
    cases h
    exact .step _ hnext (ih hothers)

/-- The rest is an end of the text. -/
lemma suffix (h : Lexes s tokens rest) : rest <:+ s := by
  induction h with
  | done => exact List.suffix_rfl
  | step _ hnext _ ih => exact (ih.trans (Lexeme.suffix_of_next hnext)).trans (List.suffix_cons ..)

end Lexes

/-- A comment is still open behind a step if it is the comment before which the step stands, or
one behind it. -/
lemma endsInComment_cons_iff {c : Char} {rest behind : List Char} {token : Option Token}
    (hnext : Lexeme.next c rest = .ok (token, behind)) :
    EndsInComment (c :: rest) ↔ IsOpenComment (c :: rest) ∨ EndsInComment behind := by
  constructor
  · rintro ⟨tokens, left, hlexes, hopen⟩
    cases hlexes with
    | done => exact .inl hopen
    | step _ hnext' hrest =>
      rw [hnext] at hnext'
      cases hnext'
      exact .inr ⟨_, left, hrest, hopen⟩
  · rintro (hopen | ⟨tokens, left, hlexes, hopen⟩)
    · exact ⟨[], _, .done, hopen⟩
    · exact ⟨_, left, .step _ hnext hlexes, hopen⟩

/-- No comment is open at the end of the empty text. -/
lemma not_endsInComment_nil : ¬ EndsInComment [] := by
  rintro ⟨tokens, rest, hlexes, comment, rfl, -⟩
  cases hlexes

namespace Lexes

variable {s more : List Char} {tokens : List Token} {x : Char}

/-- **Behind a text, reading goes on with what follows,** if that begins with a separator and no
line comment is still open.

**Proof sketch.** Induction on the steps of the reader.  A step that does not stand before the open
comment does not see what follows (`Lexeme.next_append`). -/
theorem followed (hx : Separates x) (h : Lexes s tokens []) (hclosed : ¬ EndsInComment s)
    (more : List Char) : Lexes (s ++ x :: more) tokens (x :: more) := by
  generalize hend : [] = left at h
  induction h with
  | done =>
    cases hend
    exact .done
  | step _ hnext _ ih =>
    rw [endsInComment_cons_iff hnext, not_or] at hclosed
    exact .step _ (Lexeme.next_append hx hnext hclosed.1 more) (ih hclosed.2 hend)

/-- **Behind an open comment, reading goes on with the next line:** what follows on the same line is
swallowed.

**Proof sketch.** Induction on the steps of the reader.  If the text left begins with the comment
that is open, the comment has no line break and goes on into what follows, up to its line break.
Otherwise the step is taken alike in the longer text. -/
theorem swallowed (hx : Separates x) (h : Lexes s tokens []) (hopen : EndsInComment s)
    (more : List Char) : Lexes (s ++ x :: more) tokens ((x :: more).dropWhile (· ≠ '\n')) := by
  generalize hend : [] = left at h
  induction h with
  | done =>
    cases hend
    exact absurd hopen not_endsInComment_nil
  | @step c rest behind left token tokens hnext hrest ih =>
    subst hend
    by_cases hhere : IsOpenComment (c :: rest)
    · obtain ⟨comment, heq, hline⟩ := hhere
      cases heq
      have hall : ∀ y ∈ '/' :: comment, decide (y ≠ '\n') = true := fun y hy => by
        rcases List.mem_cons.1 hy with rfl | hy
        · decide
        · exact decide_eq_true fun heq => hline (heq ▸ hy)
      have hnext' : Lexeme.next '/' ('/' :: comment) = .ok (none, []) := by
        rw [← List.dropWhile_eq_nil_iff.2 hall]
        rfl
      have hmore : Lexeme.next '/' ('/' :: comment ++ x :: more) =
          .ok (none, (x :: more).dropWhile (· ≠ '\n')) := by
        rw [← List.dropWhile_append_of_pos hall]
        rfl
      rw [hnext] at hnext'
      cases hnext'
      cases hrest
      exact .step _ hmore .done
    · have hbehind := ((endsInComment_cons_iff hnext).1 hopen).resolve_left hhere
      exact .step _ (Lexeme.next_append hx hnext hhere more) (ih hbehind rfl)

end Lexes

end Stencil.Script
