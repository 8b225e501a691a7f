import Mathlib.Data.List.TakeWhile
import Stencil.Proofs.Script.Unparsing

/-!
# Where statements cannot end

A text that ends with an opening brace is no list of statements, and neither is one that begins with
a closing brace.

## Main definitions

* `Stencil.Script.CommentFree` — a text in which the reader meets no comment.
* `Stencil.Script.EndsWith`, `Stencil.Script.BeginsWith` — the last and the first character of a
  text other than white space.
* `Stencil.Script.Leaves` — a property of what a step of reading gives, wherever it succeeds.
* `Stencil.Script.Dangling` — tokens of which an opening brace is the last.

## Main results

* `Stencil.Script.CommentFree.dangling` — the last token of a text without comments that ends with
  an opening brace is that brace.
* `Stencil.Script.leavesBrace`, `Stencil.Script.statementsLeaveBrace` — no reader gets past an
  opening brace that is the last token.
* `Stencil.Script.Stmt.listOfText_of_endsWith`, `Stencil.Script.Stmt.listOfText_of_beginsWith` — no
  statements are read from either kind of text.

## Design

Every reader gives back the tokens that it has left, so the invariant of reading is that these still
end with the opening brace.  Only the two readers that go on behind an opening brace, those of
members and of blocks, may find that nothing is left, and both of them want a closing brace then.
-/

set_option relaxedAutoImplicit false
set_option autoImplicit false

namespace Stencil.Script

open Text (isBlank allBlank)

/-! ## What a reader gives -/

/-- **A step of reading that gives only what has a property,** wherever it succeeds. -/
def Leaves {α : Type} (P : α → Prop) (r : Except ReadFault α) : Prop :=
  ∀ x, r = .ok x → P x

namespace Leaves

variable {α β : Type} {P : α → Prop} {Q : β → Prop}

/-- A value with the property. -/
lemma ok {x : α} (h : P x) : Leaves P (.ok x) := by
  rintro _ ⟨⟩
  exact h

/-- A fault, which gives nothing. -/
lemma error (fault : ReadFault) : Leaves P (.error fault) := by
  rintro _ ⟨⟩

/-- Steps of reading one after the other. -/
lemma bind {r : Except ReadFault α} {next : α → Except ReadFault β} (h : Leaves P r)
    (hnext : ∀ x, P x → Leaves Q (next x)) : Leaves Q (r >>= next) := by
  cases r with
  | error fault => exact error fault
  | ok x => exact hnext x (h x rfl)

/-- What is made of what a step gives. -/
lemma map {r : Except ReadFault α} {f : α → β} (h : Leaves P r) (hf : ∀ x, P x → Q (f x)) :
    Leaves Q (r.map f) := by
  cases r with
  | error fault => exact error fault
  | ok x => exact ok (hf x (h x rfl))

end Leaves

/-! ## Comments -/

/-- A comment begins here. -/
def BeginsComment (c : Char) (rest : List Char) : Prop :=
  c = '/' ∧ (rest.head? = some '/' ∨ rest.head? = some '*')

instance (c : Char) (rest : List Char) : Decidable (BeginsComment c rest) :=
  inferInstanceAs (Decidable (_ ∧ _))

/-- **A text in which the reader meets no comment:** it is cut into tokens to its end, and where one
of them may begin, no comment does. -/
inductive CommentFree : List Char → Prop
  /-- Nothing. -/
  | nil : CommentFree []
  /-- One step of the reader, and what is left behind it. -/
  | step {c : Char} {rest behind : List Char} {token : Option Token}
      (hnext : Lexeme.next c rest = .ok (token, behind)) (hno : ¬ BeginsComment c rest)
      (hbehind : CommentFree behind) : CommentFree (c :: rest)

/-! ## Last characters -/

/-- **A text whose last character other than white space is a given one.** -/
def EndsWith (x : Char) (s : List Char) : Prop :=
  ∃ front blanks, s = front ++ x :: blanks ∧ allBlank blanks = true

/-- **A text whose first character other than white space is a given one.** -/
def BeginsWith (x : Char) (s : List Char) : Prop :=
  ∃ blanks rest, s = blanks ++ x :: rest ∧ allBlank blanks = true

namespace EndsWith

variable {x y : Char} {s used behind : List Char}

/-- The last character of a text is one of its characters. -/
lemma mem (h : EndsWith x s) : x ∈ s := by
  obtain ⟨front, blanks, rfl, -⟩ := h
  simp

/-- The last character lies in the second part of a text, or in the first with nothing behind
it. -/
lemma of_append (h : EndsWith x (used ++ behind)) :
    EndsWith x behind ∨ EndsWith x used ∧ allBlank behind = true := by
  obtain ⟨front, blanks, heq, hblank⟩ := h
  obtain ⟨part, rfl, rfl⟩ | ⟨part, rfl, hpart⟩ := List.append_eq_append_iff.1 heq
  · exact .inl ⟨part, blanks, rfl, hblank⟩
  · cases part with
    | nil => exact .inl ⟨[], blanks, by simpa using hpart.symm, hblank⟩
    | cons y part =>
      rw [List.cons_append, List.cons.injEq] at hpart
      obtain ⟨rfl, rfl⟩ := hpart
      rw [allBlank, List.all_append, Bool.and_eq_true] at hblank
      exact .inr ⟨⟨front, part, rfl, hblank.1⟩, hblank.2⟩

/-- A character that is not in the first part of a text ends the second. -/
lemma behind_of_notMem (h : EndsWith x (used ++ behind)) (hno : x ∉ used) : EndsWith x behind :=
  h.of_append.resolve_right fun hused => hno hused.1.mem

/-- A text ends with its last character, if that is not white space. -/
lemma not_concat (hne : x ≠ y) (hy : isBlank y = false) : ¬ EndsWith x (s ++ [y]) := by
  intro h
  rcases h.of_append with hlast | ⟨-, hblank⟩
  · exact hne (List.mem_singleton.1 hlast.mem)
  · simp [allBlank, hy] at hblank

end EndsWith

/-! ## The last token -/

namespace Lexeme

/-- A string is passed up to its closing quote. -/
lemma readString_append {quote : Char} {s t behind : List Char}
    (h : readString quote s = .ok (t, behind)) : ∃ inside, s = inside ++ quote :: behind := by
  fun_induction readString quote s generalizing t with
  | case1 | case3 | case4 | case5 | case8 => simp at h
  | case2 a b c d rest x hx ih =>
    obtain ⟨u, hu⟩ := eq_ok_of_prepend h
    obtain ⟨inside, rfl⟩ := ih hu
    exact ⟨'\\' :: 'u' :: a :: b :: c :: d :: inside, rfl⟩
  | case6 c rest _ _ ih =>
    obtain ⟨u, hu⟩ := eq_ok_of_prepend h
    obtain ⟨inside, rfl⟩ := ih hu
    exact ⟨'\\' :: c :: inside, rfl⟩
  | case7 =>
    cases h
    exact ⟨[], rfl⟩
  | case9 c rest _ _ _ _ _ ih =>
    obtain ⟨u, hu⟩ := eq_ok_of_prepend h
    obtain ⟨inside, rfl⟩ := ih hu
    exact ⟨c :: inside, rfl⟩

/-- A sign is cut off from the front of a text. -/
lemma takeSign_append (s : List Char) : (takeSign s).1 ++ (takeSign s).2 = s := by
  fun_cases takeSign s <;> rfl

/-- So is an exponent. -/
lemma takeExponent_append (s : List Char) : (takeExponent s).1 ++ (takeExponent s).2 = s := by
  cases s with
  | nil => rfl
  | cons mark rest =>
    unfold takeExponent
    dsimp only
    split
    · simp [takeSign_append]
    · rfl

/-- There is no brace in an exponent. -/
lemma brace_notMem_takeExponent (s : List Char) : '\x7b' ∉ (takeExponent s).1 := by
  cases s with
  | nil => simp [takeExponent]
  | cons mark rest =>
    unfold takeExponent
    dsimp only
    split
    next hmark =>
      have hsign : '\x7b' ∉ (takeSign rest).1 := by fun_cases takeSign rest <;> simp
      have hdigits : '\x7b' ∉ (takeSign rest).2.takeWhile Text.isDigit := fun hmem =>
        absurd (List.mem_takeWhile_imp hmem) (by decide)
      have hne : '\x7b' ≠ mark := by rintro rfl; exact absurd hmark.1 (by decide)
      simp [hne, hsign, hdigits]
    · simp

/-- A number is passed, and there is no brace in it. -/
lemma readNumber_append {c : Char} {rest behind : List Char} {x : Float}
    (h : readNumber c rest = .ok (x, behind)) :
    ∃ used, rest = used ++ behind ∧ '\x7b' ∉ used := by
  unfold readNumber at h
  dsimp only at h
  split at h
  · cases h
    refine ⟨rest.takeWhile isDigitOrPoint ++ (takeExponent (rest.dropWhile isDigitOrPoint)).1,
      ?_, ?_⟩
    · rw [List.append_assoc, takeExponent_append, List.takeWhile_append_dropWhile]
    · rw [List.mem_append, not_or]
      exact ⟨fun hmem => absurd (List.mem_takeWhile_imp hmem) (by decide),
        brace_notMem_takeExponent _⟩
  · cases h

/-- A symbol is passed as it is written. -/
lemma symbol?_append {s behind : List Char} {symbol : Symbol}
    (h : symbol? s = some (symbol, behind)) : s = symbol.text.toList ++ behind := by
  obtain ⟨t, -, ht⟩ := List.exists_of_findSome?_eq_some h
  split at ht
  · cases ht
  next r hr =>
    split at ht
    · cases ht
    · cases ht
      exact Text.dropPrefix?_eq_some_iff.1 hr

/-- No symbol but the opening brace is written with one. -/
lemma eq_openBrace_of_mem {symbol : Symbol} (h : '\x7b' ∈ symbol.text.toList) :
    symbol = .openBrace := by
  cases symbol <;> first | rfl | exact absurd h (by decide)

/-- A step that comes to the opening brace at the end of a text gives it as the token.

**Proof sketch.** The cases of a step.  Unless the step stands before the brace itself, no character
that it passes is the brace, or it passes a string, whose last character is a quote; so the brace is
still ahead. -/
lemma next_of_endsWith {c : Char} {rest behind : List Char} {token : Option Token}
    (hnext : next c rest = .ok (token, behind)) (hno : ¬ BeginsComment c rest)
    (h : EndsWith '\x7b' (c :: rest)) :
    EndsWith '\x7b' behind ∨ token = some (.symbol .openBrace) ∧ allBlank behind = true := by
  have passed (used : List Char) (heq : rest = used ++ behind) (hc : '\x7b' ≠ c)
      (hused : '\x7b' ∉ used) : EndsWith '\x7b' behind := by
    subst heq
    rw [← List.cons_append] at h
    exact h.behind_of_notMem (by simp [hc, hused])
  unfold next at hnext
  split at hnext
  next hc =>
    cases hnext
    exact .inl (passed [] rfl (by rintro rfl; exact absurd hc (by decide)) (by simp))
  split at hnext
  next hc => exact absurd ⟨hc.1, .inl hc.2⟩ hno
  split at hnext
  next hc => exact absurd ⟨hc.1, .inr hc.2⟩ hno
  split at hnext
  next hc =>
    split at hnext
    next hnumber =>
      cases hnext
      obtain ⟨used, heq, hused⟩ := readNumber_append hnumber
      exact .inl (passed used heq (by rintro rfl; revert hc; simp; decide) hused)
    · cases hnext
  split at hnext
  next hc =>
    split at hnext
    next hstring =>
      cases hnext
      obtain ⟨inside, rfl⟩ := readString_append hstring
      have hsplit : c :: (inside ++ c :: behind) = (c :: inside ++ [c]) ++ behind := by simp
      rw [hsplit] at h
      refine .inl (h.of_append.resolve_right fun hused => EndsWith.not_concat ?_ ?_ hused.1)
      · rcases hc with rfl | rfl <;> decide
      · rcases hc with rfl | rfl <;> decide
    · cases hnext
  split at hnext
  · cases hnext
  split at hnext
  next hc =>
    cases hnext
    have hsplit := List.takeWhile_append_dropWhile (p := isNamePart) (l := rest)
    have hword : '\x7b' ∉ rest.takeWhile isNamePart := fun hmem =>
      absurd (List.mem_takeWhile_imp hmem) (by decide)
    exact .inl (passed _ hsplit.symm (by rintro rfl; exact absurd hc (by decide)) hword)
  split at hnext
  next symbol _ hsymbol =>
    cases hnext
    rw [symbol?_append hsymbol] at h
    refine h.of_append.imp_right fun ⟨hused, hblank⟩ => ⟨?_, hblank⟩
    rw [eq_openBrace_of_mem hused.mem]
  · cases hnext

end Lexeme

/-- White space in front of a text gives no tokens. -/
lemma ofChars_blank_append {blanks : List Char} (h : allBlank blanks = true) (s : List Char) :
    Token.ofChars (blanks ++ s) = Token.ofChars s := by
  induction blanks with
  | nil => rfl
  | cons c rest ih =>
    simp only [allBlank, List.all_cons, Bool.and_eq_true] at h
    have hnext : Lexeme.next c (rest ++ s) = .ok (none, rest ++ s) := by
      rw [Lexeme.next, if_pos h.1]
    rw [List.cons_append, Token.ofChars_cons hnext, ih h.2]
    cases Token.ofChars s <;> rfl

/-- White space alone gives none either. -/
lemma ofChars_of_allBlank {s : List Char} (h : allBlank s = true) : Token.ofChars s = .ok [] := by
  rw [← List.append_nil s, ofChars_blank_append h, Token.ofChars_nil]

/-! ## Tokens that end with an opening brace -/

/-- **An opening brace is the last token.** -/
def Dangling (tokens : List Token) : Prop := tokens.getLast? = some (.symbol .openBrace)

/-- An opening brace is the last token, or stood before the tokens as the last one. -/
def MaybeDangling (tokens : List Token) : Prop := tokens = [] ∨ Dangling tokens

section

variable {token : Token} {tokens rest : List Token}

/-- What holds of tokens with an opening brace at the end. -/
lemma Dangling.maybe (h : Dangling tokens) : MaybeDangling tokens := .inr h

/-- Where an opening brace is the last token, there is one. -/
lemma Dangling.ne_nil (h : Dangling tokens) : tokens ≠ [] := by
  rintro rfl
  cases h

/-- Where there is a token, the opening brace is among the tokens. -/
lemma MaybeDangling.of_cons (h : MaybeDangling (token :: rest)) : Dangling (token :: rest) :=
  h.resolve_left (List.cons_ne_nil _ _)

/-- Behind the first token, the opening brace is the last one still, or it was the first. -/
lemma Dangling.behind (h : Dangling (token :: rest)) : MaybeDangling rest := by
  cases rest with
  | nil => exact .inl rfl
  | cons next rest => exact .inr (by simpa [Dangling] using h)

/-- Tokens put in front leave the last one. -/
lemma Dangling.prepend (h : Dangling tokens) (front : List Token) : Dangling (front ++ tokens) := by
  rw [Dangling, List.getLast?_append, h]
  rfl

/-- A token other than an opening brace is not the last one. -/
lemma Dangling.tail (h : Dangling (token :: rest))
    (hne : token ≠ .symbol .openBrace) : Dangling rest := by
  refine h.behind.resolve_left ?_
  rintro rfl
  exact hne (Option.some.inj h)

/-- An expected symbol that is no opening brace is not the last token. -/
lemma Dangling.expect (h : Dangling tokens) {s : Symbol} (hs : s ≠ .openBrace) :
    Leaves Dangling (expect s tokens) := by
  unfold Script.expect
  split
  · split
    · next heq => exact .ok (h.tail (by rintro ⟨⟩; exact hs heq.symm))
    · exact .error _
  · exact .error _

/-- A name is not the last token. -/
lemma Dangling.identifier (h : Dangling tokens) : Leaves (Dangling ·.2) (identifier tokens) := by
  unfold Script.identifier
  split
  · exact .ok (h.tail (by simp))
  · exact .error _

end

/-- **The last token** of a text without comments that ends with an opening brace is that brace.

**Proof sketch.** Induction on the steps of the reader.  As long as a step stays in front of the
brace, the text behind it ends with the brace too; the step that comes to the brace gives it as a
token, and nothing but white space is left. -/
theorem CommentFree.dangling {s : List Char} (h : CommentFree s) (hend : EndsWith '\x7b' s)
    {tokens : List Token} (htokens : Token.ofChars s = .ok tokens) : Dangling tokens := by
  induction h generalizing tokens with
  | nil => exact absurd hend.mem (List.not_mem_nil)
  | @step c rest behind token hnext hno _ ih =>
    rw [Token.ofChars_cons hnext] at htokens
    rcases Lexeme.next_of_endsWith hnext hno hend with hbehind | ⟨rfl, hblank⟩
    · cases hothers : Token.ofChars behind with
      | error fault => rw [hothers] at htokens; cases htokens
      | ok others =>
        rw [hothers] at htokens
        cases htokens
        exact (ih hbehind hothers).prepend token.toList
    · rw [ofChars_of_allBlank hblank] at htokens
      cases htokens
      rfl

/-! ## Expressions -/

/-- What follows a key: a colon and the value, or nothing if the key stands for the name too. -/
def readMemberValue (fuel : Nat) (key : String) (behind : List Token) :
    Except ReadFault (List (String × Expr) × List Token) :=
  match behind with
  | .symbol .colon :: rest =>
    readAssignment fuel rest >>= fun p => readNextMember fuel key p.1 p.2
  | _ => readNextMember fuel key (.name key) behind

/-- Every reader of expressions leaves the opening brace that is the last token. -/
structure LeavesBrace (fuel : Nat) : Prop where
  assignment : ∀ {tokens}, Dangling tokens → Leaves (Dangling ·.2) (readAssignment fuel tokens)
  choice : ∀ {tokens}, Dangling tokens → Leaves (Dangling ·.2) (readChoice fuel tokens)
  operation : ∀ limit {tokens}, Dangling tokens →
    Leaves (Dangling ·.2) (readInfix fuel limit tokens)
  operands : ∀ limit left {tokens}, Dangling tokens →
    Leaves (Dangling ·.2) (readOperands fuel limit left tokens)
  unary : ∀ {tokens}, Dangling tokens → Leaves (Dangling ·.2) (readUnary fuel tokens)
  counted : ∀ {tokens}, Dangling tokens → Leaves (Dangling ·.2) (readPostfix fuel tokens)
  links : ∀ base {tokens}, Dangling tokens → Leaves (Dangling ·.2) (readLinks fuel base tokens)
  items : ∀ {close} {tokens}, close ≠ .openBrace → Dangling tokens →
    Leaves (Dangling ·.2) (readItems fuel close tokens)
  members : ∀ {tokens}, MaybeDangling tokens → Leaves (Dangling ·.2) (readMembers fuel tokens)
  primary : ∀ {tokens}, Dangling tokens → Leaves (Dangling ·.2) (readPrimary fuel tokens)

namespace LeavesBrace

variable {fuel : Nat} (ih : LeavesBrace fuel) {tokens : List Token}

include ih

/-- An assignment does not get past the opening brace: neither its target nor its value does. -/
lemma assignment_succ (h : Dangling tokens) :
    Leaves (Dangling ·.2) (readAssignment (fuel + 1) tokens) := by
  rw [readAssignment]
  refine (ih.choice h).bind ?_
  rintro ⟨target, rest⟩ hrest
  dsimp only at hrest ⊢
  split
  next s behind =>
    split
    · exact .error _
    split
    · exact .ok hrest
    next op hop =>
      split
      · have hne : Token.symbol s ≠ .symbol .openBrace := by rintro ⟨⟩; cases hop
        exact (ih.assignment (hrest.tail hne)).bind fun _ hbehind => .ok hbehind
      · exact .error _
  · exact .ok hrest

/-- Nor does a choice, whose parts are set apart by other symbols. -/
lemma choice_succ (h : Dangling tokens) :
    Leaves (Dangling ·.2) (readChoice (fuel + 1) tokens) := by
  rw [readChoice]
  refine (ih.operation 0 h).bind ?_
  rintro ⟨test, rest⟩ hrest
  dsimp only at hrest ⊢
  split
  · exact (ih.assignment (hrest.tail (by simp))).bind fun _ hyes =>
      (hyes.expect (by decide)).bind fun _ hcolon =>
        (ih.assignment hcolon).bind fun _ hno => .ok hno
  · exact .ok hrest

/-- Nor do operands with infix operators. -/
lemma operation_succ (limit : Nat) (h : Dangling tokens) :
    Leaves (Dangling ·.2) (readInfix (fuel + 1) limit tokens) := by
  rw [readInfix]
  exact (ih.unary h).bind fun p hrest => ih.operands limit p.1 hrest

/-- Nor does what follows an operand. -/
lemma operands_succ (limit : Nat) (left : Expr) (h : Dangling tokens) :
    Leaves (Dangling ·.2) (readOperands (fuel + 1) limit left tokens) := by
  rw [readOperands.eq_def]
  dsimp only
  split
  next s rest =>
    split
    · exact .ok h
    next op hop =>
      split
      · exact .ok h
      · have hne : Token.symbol s ≠ .symbol .openBrace := by rintro ⟨⟩; cases hop
        exact (ih.operation _ (h.tail hne)).bind fun _ hright => ih.operands _ _ hright
  · exact .ok h

/-- Nor do operators in front of an operand.

**Proof sketch.** The cases of the first token, which is an operator, or else the operand begins
with it. -/
lemma unary_succ (h : Dangling tokens) : Leaves (Dangling ·.2) (readUnary (fuel + 1) tokens) := by
  rw [readUnary.eq_def]
  dsimp only
  split
  · exact ih.counted h
  next token rest =>
    split
    next op hop =>
      have hne : token ≠ .symbol .openBrace := by rintro rfl; cases hop
      exact (ih.unary (h.tail hne)).bind fun _ hrest => .ok hrest
    · split
      next s _ =>
        split
        next direction hdirection =>
          have hne : Token.symbol s ≠ .symbol .openBrace := by
            rintro ⟨⟩
            cases hdirection
          refine (ih.unary (h.tail hne)).bind fun _ hrest => ?_
          split
          · exact .ok hrest
          · exact .error _
        · exact ih.counted h
      · split
        · exact .error _
        · exact ih.counted h
      · exact ih.counted h

/-- Nor does a chain that may be counted. -/
lemma counted_succ (h : Dangling tokens) :
    Leaves (Dangling ·.2) (readPostfix (fuel + 1) tokens) := by
  rw [readPostfix]
  refine (ih.primary h).bind fun p hbase => (ih.links p.1 hbase).bind ?_
  rintro ⟨e, rest⟩ hrest
  dsimp only at hrest ⊢
  split
  next s behind =>
    split
    next direction hdirection =>
      have hne : Token.symbol s ≠ .symbol .openBrace := by rintro ⟨⟩; cases hdirection
      split
      · exact .ok (hrest.tail hne)
      · exact .ok hrest
    · exact .ok hrest
  · exact .ok hrest

/-- Nor do the links of a chain, of which none begins with a brace. -/
lemma links_succ (base : Expr) (h : Dangling tokens) :
    Leaves (Dangling ·.2) (readLinks (fuel + 1) base tokens) := by
  rw [readLinks.eq_def]
  dsimp only
  split
  · exact (h.tail (by simp)).identifier.bind fun _ hrest => ih.links _ hrest
  · exact (ih.assignment ((h.tail (by simp)).tail (by simp))).bind fun _ hkey =>
      (hkey.expect (by decide)).bind fun _ hrest => ih.links _ hrest
  · exact (h.tail (by simp)).identifier.bind fun _ hrest => ih.links _ hrest
  · exact (ih.assignment (h.tail (by simp))).bind fun _ hkey =>
      (hkey.expect (by decide)).bind fun _ hrest => ih.links _ hrest
  · exact (ih.items (by decide) (h.tail (by simp))).bind fun _ hrest => ih.links _ hrest
  · exact .ok h

/-- Nor do further items. -/
lemma nextItem {close : Symbol} (hclose : close ≠ .openBrace) (item : Expr)
    (h : Dangling tokens) : Leaves (Dangling ·.2) (readNextItem fuel close item tokens) := by
  unfold readNextItem
  split
  · exact (ih.items hclose (h.tail (by simp))).bind fun _ hbehind => .ok hbehind
  · exact (h.expect hclose).bind fun _ hbehind => .ok hbehind

/-- Nor do items between commas, up to a symbol other than the opening brace. -/
lemma items_succ {close : Symbol} (hclose : close ≠ .openBrace) (h : Dangling tokens) :
    Leaves (Dangling ·.2) (readItems (fuel + 1) close tokens) := by
  by_cases hend : ∃ rest, tokens = .symbol close :: rest
  · obtain ⟨rest, rfl⟩ := hend
    simp only [readItems, if_true]
    exact .ok (h.tail (by rintro ⟨⟩; exact hclose rfl))
  · rw [readItems_succ (fun rest heq => hend ⟨rest, heq⟩)]
    exact (ih.assignment h).bind fun p hrest => ih.nextItem hclose p.1 hrest

/-- Nor do further members. -/
lemma nextMember (key : String) (value : Expr) (h : Dangling tokens) :
    Leaves (Dangling ·.2) (readNextMember fuel key value tokens) := by
  unfold readNextMember
  split
  · exact (ih.members h.behind).bind fun _ hend => .ok hend
  · exact (h.expect (by decide)).bind fun _ hend => .ok hend

/-- Nor does the value of a member. -/
lemma member (key : String) (h : Dangling tokens) :
    Leaves (Dangling ·.2) (readMemberValue fuel key tokens) := by
  unfold readMemberValue
  split
  · exact (ih.assignment (h.tail (by simp))).bind fun p hrest => ih.nextMember key p.1 hrest
  · exact ih.nextMember key _ h

/-- Nor do members: behind the brace that they begin with, a key or the closing brace has to
follow. -/
lemma members_succ (h : MaybeDangling tokens) :
    Leaves (Dangling ·.2) (readMembers (fuel + 1) tokens) := by
  rw [readMembers.eq_def]
  dsimp only
  split
  · exact .ok (h.of_cons.tail (by simp))
  · split
    · exact ih.member _ (h.of_cons.tail (by simp))
    · exact ih.member _ (h.of_cons.tail (by simp))
    · exact ih.member _ (h.of_cons.tail (by simp))
    · exact .error _

/-- Nor does the base of a chain. -/
lemma primary_succ (h : Dangling tokens) :
    Leaves (Dangling ·.2) (readPrimary (fuel + 1) tokens) := by
  rw [readPrimary.eq_def]
  dsimp only
  split
  · exact .error _
  · exact .ok (h.tail (by simp))
  · exact .ok (h.tail (by simp))
  · exact .ok (h.tail (by simp))
  · exact (ih.assignment (h.tail (by simp))).bind fun _ he =>
      (he.expect (by decide)).bind fun _ hrest => .ok hrest
  · exact (ih.items (by decide) (h.tail (by simp))).bind fun _ hrest => .ok hrest
  · exact (ih.members h.behind).bind fun _ hrest => .ok hrest
  · exact .error _

end LeavesBrace

/-- **No reader of expressions gets past an opening brace** that is the last token.

**Proof sketch.** Induction on the fuel, all readers at once.  A reader passes a token only if the
grammar names it at that place, and an opening brace is named only where members begin; there a key
or the closing brace has to follow. -/
theorem leavesBrace (fuel : Nat) : LeavesBrace fuel := by
  induction fuel with
  | zero => constructor <;> intros <;> exact .error _
  | succ fuel ih =>
    exact
      { assignment := ih.assignment_succ
        choice := ih.choice_succ
        operation := fun limit => ih.operation_succ limit
        operands := fun limit left => ih.operands_succ limit left
        unary := ih.unary_succ
        counted := ih.counted_succ
        links := fun base => ih.links_succ base
        items := ih.items_succ
        members := ih.members_succ
        primary := ih.primary_succ }

/-! ## Statements -/

section

variable {tokens : List Token} (h : Dangling tokens) (fuel : Nat)

include h

/-- The end of a statement is not the opening brace. -/
lemma Dangling.endStatement : Leaves Dangling (endStatement tokens) := by
  unfold Script.endStatement
  split
  · exact absurd rfl h.ne_nil
  · exact .ok (h.tail (by simp))
  · exact .ok h
  · exact .error _

/-- An expression in parentheses does not get past the opening brace. -/
lemma Dangling.readCondition : Leaves (Dangling ·.2) (readCondition fuel tokens) := by
  unfold Script.readCondition
  exact (h.expect (by decide)).bind fun _ hopen =>
    ((leavesBrace fuel).assignment hopen).bind fun _ htest =>
    (htest.expect (by decide)).bind fun _ hclose => .ok hclose

/-- Nor does an expression up to another symbol. -/
lemma Dangling.readOptional {stop : Symbol} (hstop : stop ≠ .openBrace) :
    Leaves (Dangling ·.2) (readOptional fuel stop tokens) := by
  have present : Leaves (Dangling ·.2) (readAssignment fuel tokens >>= fun p =>
      Script.expect stop p.2 >>= fun rest => .ok (some p.1, rest)) :=
    ((leavesBrace fuel).assignment h).bind fun _ he =>
      (he.expect hstop).bind fun _ hrest => .ok hrest
  unfold Script.readOptional
  split
  · split
    next heq => exact .ok (h.tail (by rintro ⟨⟩; exact hstop heq.symm))
    · exact present
  · exact present

omit fuel in
/-- Nor does the head of a loop over elements or keys, which is made of words.

**Proof sketch.** The head is a keyword, if any, a name and a word, none of which is a brace. -/
lemma Dangling.iterationHead {head : String × Bool × List Token}
    (hhead : iterationHead? tokens = some head) : Dangling head.2.2 := by
  obtain ⟨token, rest, rfl⟩ := List.exists_cons_of_ne_nil h.ne_nil
  obtain ⟨inner, hinner, hdangling⟩ :
      ∃ inner, (if token.declKind?.isSome then rest else token :: rest) = inner ∧
        Dangling inner := by
    refine ⟨_, rfl, ?_⟩
    split
    next hkind => exact h.tail (by rintro rfl; cases hkind)
    · exact h
  unfold iterationHead? at hhead
  dsimp only at hhead
  rw [hinner] at hhead
  split at hhead
  · split at hhead
    · cases hhead
      exact ((hdangling.tail (by simp)).tail (by simp))
    split at hhead
    · cases hhead
      exact ((hdangling.tail (by simp)).tail (by simp))
    · cases hhead
  · cases hhead

end

/-- What follows a declaration: further ones behind a comma, or none. -/
def readNextDeclaration (fuel : Nat) (n : String) (value : Option Expr) (tokens : List Token) :
    Except ReadFault (List (String × Option Expr) × List Token) :=
  match tokens with
  | .symbol .comma :: rest =>
    readDeclarations fuel rest >>= fun p => .ok ((n, value) :: p.1, p.2)
  | _ => .ok ([(n, value)], tokens)

/-- Nor do declarations. -/
lemma Dangling.readDeclarations (fuel : Nat) {tokens : List Token} (h : Dangling tokens) :
    Leaves (Dangling ·.2) (readDeclarations fuel tokens) := by
  induction fuel generalizing tokens with
  | zero => exact .error _
  | succ fuel ih =>
    have next (n : String) (value : Option Expr) {rest : List Token} (hrest : Dangling rest) :
        Leaves (Dangling ·.2) (readNextDeclaration fuel n value rest) := by
      unfold readNextDeclaration
      split
      · exact (ih (hrest.tail (by simp))).bind fun _ hend => .ok hend
      · exact .ok hrest
    rw [readDeclarations.eq_def]
    dsimp only
    refine h.identifier.bind ?_
    rintro ⟨n, rest⟩ hrest
    dsimp only at hrest ⊢
    split
    · refine Leaves.bind (.map ((leavesBrace fuel).assignment (hrest.tail (by simp))) ?_)
        fun p (hvalue : Dangling p.2) => next n p.1 hvalue
      exact fun _ hrest => hrest
    · exact next n none hrest

/-- Nor does what a counting loop starts with. -/
lemma Dangling.readStart (fuel : Nat) {tokens : List Token} (h : Dangling tokens) :
    Leaves (Dangling ·.2) (readStart fuel tokens) := by
  rw [readStart.eq_def]
  dsimp only
  split
  · exact .ok (h.tail (by simp))
  · obtain ⟨token, rest, rfl⟩ := List.exists_cons_of_ne_nil h.ne_nil
    have stop {start : Except ReadFault (Stmt × List Token)}
        (hstart : Leaves (Dangling ·.2) start) : Leaves (Dangling ·.2) (start >>= fun p =>
          Script.expect .semicolon p.2 >>= fun rest => .ok (p.1, rest)) :=
      hstart.bind fun p (hrest : Dangling p.2) =>
        (hrest.expect (by decide)).bind fun _ hend => .ok hend
    dsimp only
    split
    next kind hkind =>
      have hne : token ≠ .symbol .openBrace := by rintro rfl; cases hkind
      exact stop (((h.tail hne).readDeclarations fuel).map fun _ hrest => hrest)
    · exact stop (((leavesBrace fuel).assignment h).map fun _ hrest => hrest)

/-- Nor do declarations as a statement. -/
lemma Dangling.readDeclared (fuel : Nat) (kind : DeclKind) {tokens : List Token}
    (h : Dangling tokens) :
    Leaves (Dangling ·.2) (readStatement.readDeclared fuel kind tokens) := by
  unfold readStatement.readDeclared
  exact (h.readDeclarations fuel).bind fun _ hrest =>
    hrest.endStatement.bind fun _ hend => .ok hend

/-- Nor does an expression as a statement. -/
lemma Dangling.readSimple (fuel : Nat) {tokens : List Token} (h : Dangling tokens) :
    Leaves (Dangling ·.2) (readStatement.readSimple fuel tokens) := by
  unfold readStatement.readSimple
  exact ((leavesBrace fuel).assignment h).bind fun _ hrest =>
    hrest.endStatement.bind fun _ hend => .ok hend

/-- Every reader of statements leaves the opening brace that is the last token. -/
structure StatementsLeaveBrace (fuel : Nat) : Prop where
  statement : ∀ {tokens}, Dangling tokens → Leaves (Dangling ·.2) (readStatement fuel tokens)
  block : ∀ {tokens}, MaybeDangling tokens → Leaves (Dangling ·.2) (readBlock fuel tokens)

namespace StatementsLeaveBrace

variable {fuel : Nat} (ih : StatementsLeaveBrace fuel) {tokens : List Token}
include ih

/-- Nor does a statement, of which a block alone begins with a brace.

**Proof sketch.** The cases of the first token.  No statement but a block takes a brace at its
beginning, so the brace is still ahead behind each part; the readers of the parts keep it by
induction. -/
lemma statement_succ (h : Dangling tokens) :
    Leaves (Dangling ·.2) (readStatement (fuel + 1) tokens) := by
  rw [readStatement.eq_def]
  dsimp only
  split
  · exact .ok (h.tail (by simp))
  · exact (ih.block h.behind).bind fun _ hrest => .ok hrest
  · exact (h.tail (by simp)).readDeclared fuel .var
  · exact (h.tail (by simp)).readDeclared fuel .let
  · exact (h.tail (by simp)).readDeclared fuel .const
  · refine ((h.tail (by simp)).readCondition fuel).bind fun _ htest => (ih.statement htest).bind ?_
    rintro ⟨yes, rest⟩ hrest
    dsimp only at hrest ⊢
    split
    · exact (ih.statement (hrest.tail (by simp))).bind fun _ hno => .ok hno
    · exact .ok hrest
  · exact ((h.tail (by simp)).readCondition fuel).bind fun _ htest =>
      (ih.statement htest).bind fun _ hbody => .ok hbody
  · refine ((h.tail (by simp)).expect (by decide)).bind fun head hhead => ?_
    split
    next hiteration =>
      exact ((leavesBrace fuel).assignment (hhead.iterationHead hiteration)).bind fun _ hsource =>
        (hsource.expect (by decide)).bind fun _ hclose =>
        (ih.statement hclose).bind fun _ hbody => .ok hbody
    · exact (hhead.readStart fuel).bind fun _ hstart =>
        (hstart.readOptional fuel (by decide)).bind fun _ htest =>
        (htest.readOptional fuel (by decide)).bind fun _ hupdate =>
        (ih.statement hupdate).bind fun _ hbody => .ok hbody
  · split
    · exact .error _
    · exact h.readSimple fuel
  · exact h.readSimple fuel

/-- Nor do the statements of a block, which a closing brace has to follow. -/
lemma block_succ (h : MaybeDangling tokens) :
    Leaves (Dangling ·.2) (readBlock (fuel + 1) tokens) := by
  rw [readBlock.eq_def]
  dsimp only
  split
  · exact .ok (h.of_cons.tail (by simp))
  · exact .error _
  next _ hne =>
    exact (ih.statement (h.resolve_left hne)).bind fun _ hfirst =>
      (ih.block hfirst.maybe).bind fun _ hothers => .ok hothers

end StatementsLeaveBrace

/-- **No reader of statements gets past an opening brace** that is the last token. -/
theorem statementsLeaveBrace (fuel : Nat) : StatementsLeaveBrace fuel := by
  induction fuel with
  | zero => constructor <;> intros <;> exact .error _
  | succ fuel ih => exact ⟨ih.statement_succ, ih.block_succ⟩

/-- Statements that fill all tokens do not end with an opening brace. -/
theorem readStatements_of_dangling (fuel : Nat) {tokens : List Token} (h : Dangling tokens) :
    Leaves (fun _ => False) (readStatements fuel tokens) := by
  induction fuel generalizing tokens with
  | zero =>
    obtain ⟨token, rest, rfl⟩ := List.exists_cons_of_ne_nil h.ne_nil
    exact .error _
  | succ fuel ih =>
    obtain ⟨token, rest, rfl⟩ := List.exists_cons_of_ne_nil h.ne_nil
    rw [readStatements.eq_def]
    exact ((statementsLeaveBrace fuel).statement h).bind fun _ hrest =>
      (ih hrest).bind fun _ hfalse => hfalse.elim

/-! ## Texts -/

/-- No statement begins with a closing brace. -/
lemma readStatements_of_closeBrace (fuel : Nat) (rest : List Token) :
    Leaves (fun _ => False) (readStatements fuel (.symbol .closeBrace :: rest)) := by
  rcases fuel with _ | _ | _ | _ | _ | _ | _ | _ | fuel <;> exact nofun

/-- What is read from a text as statements is read from its tokens. -/
lemma Stmt.exists_tokens {code : String} {body : List Stmt} (h : Stmt.listOfText code = .ok body) :
    ∃ tokens, Token.ofChars code.toList = .ok tokens ∧
      readStatements (fuelFor tokens) tokens = .ok body := by
  unfold Stmt.listOfText at h
  cases htokens : Token.ofChars code.toList with
  | error fault => rw [htokens] at h; cases h
  | ok tokens =>
    rw [htokens, Except.bind] at h
    cases hread : readStatements (fuelFor tokens) tokens with
    | error fault => rw [hread] at h; cases h
    | ok statements =>
      rw [hread] at h
      cases h
      exact ⟨tokens, rfl, hread⟩

/-- **A text that ends with an opening brace is no list of statements,** unless that brace stands in
a comment. -/
theorem Stmt.listOfText_of_endsWith {code : String} (hfree : CommentFree code.toList)
    (hend : EndsWith '\x7b' code.toList) (body : List Stmt) : Stmt.listOfText code ≠ .ok body := by
  intro h
  obtain ⟨tokens, htokens, hread⟩ := Stmt.exists_tokens h
  exact readStatements_of_dangling _ (hfree.dangling hend htokens) _ hread

/-- **A text that begins with a closing brace is no list of statements.** -/
theorem Stmt.listOfText_of_beginsWith {code : String} (hbegin : BeginsWith '\x7d' code.toList)
    (body : List Stmt) : Stmt.listOfText code ≠ .ok body := by
  intro h
  obtain ⟨tokens, htokens, hread⟩ := Stmt.exists_tokens h
  obtain ⟨blanks, rest, hsplit, hblank⟩ := hbegin
  have hnext : Lexeme.next '\x7d' rest = .ok (some (.symbol .closeBrace), rest) := rfl
  rw [hsplit, ofChars_blank_append hblank, Token.ofChars_cons hnext] at htokens
  cases hothers : Token.ofChars rest with
  | error fault => rw [hothers] at htokens; cases htokens
  | ok others =>
    rw [hothers] at htokens
    cases htokens
    exact readStatements_of_closeBrace _ _ _ hread

end Stencil.Script
