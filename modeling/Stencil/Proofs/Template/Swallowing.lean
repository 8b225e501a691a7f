import Stencil.Proofs.Script.Following
import Stencil.Proofs.Template.Listing
import Stencil.Proofs.Template.Stripping

/-!
# Comments that swallow code

The code of a tag is put between other code, on one line with it.  A line comment at its end is
closed by a line break for that.  The line break stays behind statements.  Behind an expression that
is put out it is trimmed away again, so that the comment swallows the parentheses that follow.

## Main definitions

* `Stencil.Instruction.MadeOf` — the instructions that are made of the code of a tag.
* `Stencil.Framed` — a fragment of code, and what a listing writes around it.
* `Stencil.Program.MadeFrom` — the programs that a template is made into.

## Main results

* `Stencil.not_endsInComment_closeLineComment` — no comment is open behind a line break that closes
  it.
* `Stencil.endsInComment_outputExpression` — a comment behind an expression is open again when the
  expression has been trimmed.
* `Stencil.Program.exists_madeOf` — every fragment of a program is made of the code of a tag.
* `Stencil.Program.fragments_followed` — what follows a fragment is read as it is written if and
  only if no comment is open behind the fragment.
-/

set_option relaxedAutoImplicit false
set_option autoImplicit false

namespace Stencil

open Script (Token Symbol Lexes Separates EndsInComment separates_closeParen separates_newline
  separates_space)
open Text (isBlank allBlank trim trimStart trimEnd)

/-! ## Line comments of fragments -/

/-- A text in which a comment is open at the end has the mark of a line comment on its last line. -/
lemma endsInLineComment_of_endsInComment {s : List Char} (h : EndsInComment s) :
    endsInLineComment s = true := by
  obtain ⟨tokens, rest, hlexes, comment, rfl, hline⟩ := h
  obtain ⟨used, rfl⟩ := hlexes.suffix
  have hall : ∀ c ∈ comment.reverse ++ ['/', '/'], decide (c ≠ '\n') = true := by
    intro c hc
    rw [decide_eq_true_eq]
    rintro rfl
    simp [hline] at hc
  have hreverse : (used ++ '/' :: '/' :: comment).reverse =
      (comment.reverse ++ ['/', '/']) ++ used.reverse := by simp
  rw [endsInLineComment, hreverse, List.takeWhile_append_of_pos hall]
  exact Text.occursIn_of_infix ⟨comment.reverse, _, rfl⟩

/-- There is no line comment on the last line of a fragment with its line comment closed. -/
lemma endsInLineComment_closeLineComment (s : List Char) :
    endsInLineComment (closeLineComment s) = false := by
  unfold closeLineComment
  split
  · simp [endsInLineComment, Text.occursIn, Text.splitFirst?]
  next h => exact Bool.eq_false_iff.2 h

/-- **A fragment with its line comment closed** leaves no comment open. -/
theorem not_endsInComment_closeLineComment (s : List Char) :
    ¬ EndsInComment (closeLineComment s) := fun h => by
  have hopen := endsInLineComment_of_endsInComment h
  rw [endsInLineComment_closeLineComment] at hopen
  cases hopen

section

variable {y : Char}

/-- Nothing is dropped in front of a character that is neither white space nor a semicolon. -/
lemma dropSemicolon_append_cons (hy : isBlank y = false) (hne : y ≠ ';') (a b : List Char) :
    dropSemicolon (a ++ y :: b) = a ++ y :: dropSemicolon b := by
  induction a with
  | nil => simp [dropSemicolon, hne]
  | cons c a ih =>
    have hblank : ¬ (c = ';' ∧ allBlank (a ++ y :: b) = true) := by simp [allBlank, hy]
    rw [List.cons_append, dropSemicolon, if_neg hblank, ih]
    rfl

/-- A text without its last semicolon is a beginning of it. -/
lemma dropSemicolon_prefix_self (s : List Char) : dropSemicolon s <+: s := by
  fun_induction dropSemicolon s with
  | case1 => exact List.prefix_rfl
  | case2 => exact List.nil_prefix
  | case3 c rest _ ih => exact (List.prefix_cons_inj c).2 ih

/-- White space is trimmed up to the characters that are none. -/
lemma trim_append_cons (hy : isBlank y = false) (a b : List Char) :
    trim (a ++ y :: b) = trimStart a ++ y :: trimEnd b := by
  have hstart : trimStart (a ++ y :: b) = trimStart a ++ y :: b :=
    Script.dropWhile_append_cons hy a b
  rw [trim, hstart, trimEnd, List.reverse_append, List.reverse_cons, List.append_assoc,
    List.singleton_append, Script.dropWhile_append_cons hy]
  simp [trimEnd]

end

/-- What is left of a line in front of white space, when its end is trimmed, is on that line. -/
lemma newline_notMem_trimEnd {note blanks v : List Char} (hnote : '\n' ∉ note)
    (hblanks : allBlank blanks = true) (hv : v <+: note ++ blanks) : '\n' ∉ trimEnd v := by
  have hsubset (s : List Char) : trimEnd s ⊆ s := fun c hc =>
    List.mem_reverse.1 ((List.dropWhile_suffix _).subset (List.mem_reverse.1 hc))
  obtain ⟨rest, hrest⟩ := hv
  obtain ⟨more, rfl, -⟩ | ⟨more, rfl, rfl⟩ := List.append_eq_append_iff.1 hrest
  · exact fun hmem => hnote (List.mem_append_left _ (hsubset v hmem))
  · have hmore : ∀ c ∈ more.reverse, isBlank c = true := fun c hc =>
      List.all_eq_true.1 hblanks c (List.mem_append_left _ (List.mem_reverse.1 hc))
    rw [trimEnd, List.reverse_append, List.dropWhile_append_of_pos hmore]
    exact fun hmem => hnote (hsubset note hmem)

/-- Tokens are cut off a text as they are without the white space in front of it.

**Proof sketch.** Induction on the text.  The reader takes white space off in steps that give no
token. -/
lemma Script.Lexes.of_trimStart {y : Char} {s more : List Char} {tokens : List Token}
    (h : Lexes (s ++ y :: more) tokens (y :: more)) :
    Lexes (trimStart s ++ y :: more) tokens (y :: more) := by
  induction s with
  | nil => exact h
  | cons c s ih =>
    rw [trimStart, List.dropWhile_cons]
    split
    next hc =>
      -- a step over white space gives no token
      generalize hwhole : c :: s ++ y :: more = whole at h
      cases h with
      | done =>
        have hlength := congrArg List.length hwhole
        simp only [List.length_cons, List.length_append] at hlength
        omega
      | step _ hnext hrest =>
        cases hwhole
        rw [Script.Lexeme.next, if_pos hc] at hnext
        cases hnext
        exact ih hrest
    · exact h

/-- **A comment behind an expression is open again when the expression has been trimmed,** whether
or not a line break has closed it.

**Proof sketch.** Nothing but white space, and at most one semicolon that stands in the comment
itself, is taken away from the end.  So the comment still begins where it did, and with the white
space the line break goes that would end it. -/
theorem endsInComment_outputExpression {code note blanks : List Char} {tokens : List Token}
    (hcode : Token.ofChars code = .ok tokens) (hclosed : ¬ EndsInComment code)
    (hnote : '\n' ∉ note) (hblanks : allBlank blanks = true) :
    EndsInComment (outputExpression (code ++ ' ' :: '/' :: '/' :: (note ++ blanks))) := by
  obtain ⟨blanks', hblanks', hclose⟩ : ∃ blanks', allBlank blanks' = true ∧
      closeLineComment (code ++ ' ' :: '/' :: '/' :: (note ++ blanks)) =
        (code ++ [' ', '/']) ++ '/' :: (note ++ blanks') := by
    unfold closeLineComment
    split
    · refine ⟨blanks ++ ['\n'], ?_, by simp⟩
      rw [allBlank, List.all_append, Bool.and_eq_true]
      exact ⟨hblanks, by decide⟩
    · exact ⟨blanks, hblanks, by simp⟩
  have hmark : trimStart (code ++ [' ', '/']) = trimStart (code ++ [' ']) ++ ['/'] := by
    rw [List.append_cons]
    exact Script.dropWhile_append_cons (by decide) (code ++ [' ']) []
  have htrim : outputExpression (code ++ ' ' :: '/' :: '/' :: (note ++ blanks)) =
      trimStart (code ++ [' ']) ++ '/' :: '/' :: trimEnd (dropSemicolon (note ++ blanks')) := by
    rw [outputExpression, hclose, dropSemicolon_append_cons (by decide) (by decide),
      trim_append_cons (by decide), hmark, List.append_assoc, List.singleton_append]
  rw [htrim]
  refine ⟨tokens, _, Lexes.of_trimStart ?_, _, rfl,
    newline_notMem_trimEnd hnote hblanks' (dropSemicolon_prefix_self _)⟩
  rw [List.append_assoc, List.singleton_append, ← List.append_nil tokens]
  exact ((Lexes.of_ofChars hcode).followed separates_space hclosed _).trans
    (.step none rfl .done)

/-! ## What a program is made of -/

namespace Instruction

/-- **The instructions that are made of the code of a tag,** given its text. -/
inductive MadeOf (s : List Char) : Instruction → Prop
  /-- Statements are run as they are. -/
  | exec : MadeOf s (.exec (String.ofList (closeLineComment s)))
  /-- An expression is put out, escaped. -/
  | escaped : MadeOf s (.appendEscaped (String.ofList (outputExpression s)))
  /-- An expression is put out. -/
  | raw : MadeOf s (.appendRaw (String.ofList (outputExpression s)))

end Instruction

/-- **A fragment of code, and what a listing writes around it.** -/
structure Framed where
  /-- The fragment. -/
  fragment : String
  /-- What is written before it. -/
  opening : String
  /-- The tokens of what is written before it. -/
  opened : List Token
  /-- The number of parentheses that are closed behind it. -/
  parens : Nat

/-- The closing parentheses behind a fragment. -/
def Framed.closing (x : Framed) : String := String.ofList (List.replicate x.parens ')')

/-- The line of a listing that a fragment stands in. -/
def Framed.line (x : Framed) : String := x.opening ++ x.fragment ++ x.closing ++ "\n"

/-- The tokens of closing parentheses. -/
def Framed.closed (x : Framed) : List Token := List.replicate x.parens (.symbol .closeParen)

/-- The fragment of an instruction, if it has one. -/
def Instruction.framed? : Instruction → Option Framed
  | .exec f => some ⟨f, "    ; ", [.symbol .semicolon], 0⟩
  | .step (.appendEscaped e) =>
    some ⟨e, "    ; __append(escape(", [.symbol .semicolon, .word "__append", .symbol .openParen,
      .word "escape", .symbol .openParen], 2⟩
  | .step (.appendRaw e) =>
    some ⟨e, "    ; __append(", [.symbol .semicolon, .word "__append", .symbol .openParen], 1⟩
  | _ => none

/-- **The programs that a template is made into,** by compiling it or for build tools. -/
inductive Program.MadeFrom (options : Options) (text : String) : Program → Prop
  /-- The template is compiled, with its directives followed. -/
  | compiled {w : Workspace} {c : Compiled} :
    w.compile options text = .ok c → MadeFrom options text c.program
  /-- The template is prepared for build tools, without its directives. -/
  | prebuilt {p : Program} :
    (Template.ofText { options with diagnostics := false } text).withoutDirectives = .ok p →
    MadeFrom options text p

/-- A fragment that an instruction has is made of the code of a tag. -/
def Instruction.IsRead (i : Instruction) : Prop := ∀ x, i.framed? = some x → ∃ code, i.MadeOf code

/-- The fragments of what is read of a segment are made of its text. -/
lemma Reader.isRead_take (options : Options) (r : Reader) (s : Segment) :
    ∀ i ∈ (r.take options s).2, i.IsRead :=
  r.forall_take options (fun _ _ h => by cases h) (fun _ _ _ => ⟨_, .exec⟩)
    (fun _ _ _ => ⟨_, .escaped⟩) (fun _ _ _ => ⟨_, .raw⟩) s

/-- What a directive adds to a program has no fragments but those of what is included. -/
lemma Template.Follows.isRead {w : Workspace} {t : Template} {d : Directive} {p q : Pass}
    (h : Template.Follows w t p d q) (hnested : ∀ path component inner,
      t.nested w path component = .ok inner → ∀ i ∈ inner.program, i.IsRead)
    (hp : ∀ i ∈ p.program, i.IsRead) : ∀ i ∈ q.program, i.IsRead := by
  have htexts (texts : List String) : ∀ i ∈ texts.map Instruction.append, i.IsRead := by
    simp [Instruction.IsRead, Instruction.framed?]
  cases h with
  | @included _ path component inner params isolated opening closing _ hinner =>
    have hbody := hnested path component inner hinner
    have hopening := List.forall_mem_append.2 ⟨hp, htexts opening⟩
    have hscope (entry : ScopeEntry) : ∀ i ∈ .enterScope entry :: inner.program, i.IsRead :=
      List.forall_mem_cons.2 ⟨nofun, hbody⟩
    have hexit : ∀ i ∈ [Instruction.exitScope], i.IsRead := List.forall_mem_singleton.2 nofun
    exact List.forall_mem_append.2 ⟨List.forall_mem_append.2 ⟨List.forall_mem_append.2
      ⟨hopening, hscope _⟩, hexit⟩, htexts closing⟩
  | skipped => exact hp
  | refer | beginCapture | endCapture =>
    exact List.forall_mem_append.2 ⟨hp, List.forall_mem_singleton.2 nofun⟩

/-- Every fragment of a compiled program is made of the code of a tag.

**Proof sketch.** Induction on the chain of includes: the fragments of a template are read from its
own segments, or they are those of a template that it includes. -/
lemma Template.isRead_of_expand {w : Workspace} {t : Template} {c : Compiled}
    (h : t.expand w = .ok c) : ∀ i ∈ c.program, i.IsRead := by
  refine Template.expand_induction (motive := fun _ c => ∀ i ∈ c.program, i.IsRead)
    (fun t c ih h => ?_) h
  rw [Template.expand_eq] at h
  cases hq : t.pass (t.follow w (t.nested w)) t.start with
  | error e => rw [hq] at h; cases h
  | ok q =>
    rw [hq] at h
    cases h
    refine Template.forall_pass nofun (Reader.isRead_take _)
      (fun d p q hfollow hp => (Template.Follows.of_follow hfollow).isRead ?_ hp)
      (List.forall_mem_nil _) hq
    intro path component inner hinner
    obtain ⟨-, hdepth, text, hread, hexpand⟩ := Template.exists_of_nested hinner
    exact ih path component text inner hread hexpand hdepth

namespace Program

variable {p : Program} {i : Instruction} {x : Framed}

/-- Every fragment of a program is made of the code of a tag. -/
theorem MadeFrom.isRead {options : Options} {text : String} (h : p.MadeFrom options text) :
    ∀ i ∈ p, i.IsRead := by
  cases h with
  | compiled hc => exact Template.isRead_of_expand hc
  | prebuilt hp => exact Template.forall_withoutDirectives nofun (Reader.isRead_take _) hp

/-! ## Listings -/

/-- An instruction with a fragment is listed on a line of its own. -/
lemma listFrom_of_framed (h : i.framed? = some x) (scopes : List Nat) (rest : Program) :
    listFrom scopes (i :: rest) = x.line ++ listFrom scopes rest := by
  have hescape : "    ; __append(escape(" = "    ; " ++ "__append(escape(" := rfl
  have happend : "    ; __append(" = "    ; " ++ "__append(" := rfl
  cases i with
  | exec f =>
    cases h
    show "    ; " ++ f ++ "\n" ++ _ = "    ; " ++ f ++ "" ++ "\n" ++ _
    rw [String.append_empty]
  | step s =>
    cases s <;> cases h
    · rw [listFrom, listStep, entry, Framed.line, hescape]
      simp only [String.append_assoc]
      rfl
    · rw [listFrom, listStep, entry, Framed.line, happend]
      simp only [String.append_assoc]
      rfl
  | enterScope | exitScope => cases h

/-- The listing of a program goes through the lines of its fragments. -/
lemma exists_listing_of_framed (h : i.framed? = some x) (front behind : Program) :
    ∃ after, listing (front ++ i :: behind) = front.listing ++ x.line ++ after := by
  refine ⟨listFrom (front.foldl openBehind []) behind, ?_⟩
  rw [listing, listFrom_append, listFrom_of_framed h, ← String.append_assoc]
  rfl

/-- What a line of a listing begins with is read apart from what follows. -/
lemma lexes_entry (rest : List Char) : Lexes ("    ; ".toList ++ rest) [.symbol .semicolon] rest :=
  .step none rfl <| .step none rfl <| .step none rfl <| .step none rfl <|
  .step (some (.symbol .semicolon)) rfl <| .step none rfl .done

/-- The call that puts something out is read apart from what it puts out. -/
lemma lexes_append (rest : List Char) :
    Lexes ("    ; __append(".toList ++ rest)
      [.symbol .semicolon, .word "__append", .symbol .openParen] rest := by
  have hcall : Lexes ("__append(".toList ++ rest) [.word "__append", .symbol .openParen] rest :=
    .step (some (.word "__append")) rfl <| .step (some (.symbol .openParen)) rfl .done
  have hsplit : "    ; __append(".toList = "    ; ".toList ++ "__append(".toList := by decide
  rw [hsplit, List.append_assoc]
  exact (lexes_entry _).trans hcall

end Program

namespace Framed

/-- What is written before a fragment is read apart from it. -/
lemma lexes_opening {i : Instruction} {x : Framed} (h : i.framed? = some x) (rest : List Char) :
    Lexes (x.opening.toList ++ rest) x.opened rest := by
  have hescape (rest : List Char) :
      Lexes ("escape(".toList ++ rest) [.word "escape", .symbol .openParen] rest :=
    .step (some (.word "escape")) rfl <| .step (some (.symbol .openParen)) rfl .done
  cases i with
  | exec f =>
    cases h
    exact Program.lexes_entry rest
  | step s =>
    cases s <;> cases h
    · have hsplit : "    ; __append(escape(".toList =
          "    ; __append(".toList ++ "escape(".toList := by decide
      dsimp only
      rw [hsplit, List.append_assoc]
      exact (Program.lexes_append _).trans (hescape rest)
    · exact Program.lexes_append rest
  | enterScope | exitScope => cases h

/-- What closes a frame is cut into its tokens. -/
lemma lexes_closing (x : Framed) (rest : List Char) :
    Lexes (x.closing.toList ++ rest) x.closed rest := by
  rw [closing, closed, String.toList_ofList]
  induction x.parens with
  | zero => exact .done
  | succ n ih => exact .step (some (.symbol .closeParen)) rfl ih

/-- What is written behind a fragment begins with a separator. -/
lemma exists_separator (x : Framed) (after : List Char) :
    ∃ y more, Separates y ∧ x.closing.toList ++ '\n' :: after = y :: more := by
  rw [closing, String.toList_ofList]
  cases x.parens with
  | zero => exact ⟨'\n', after, separates_newline, rfl⟩
  | succ n => exact ⟨')', _, separates_closeParen, rfl⟩

variable {i : Instruction} {x : Framed} {tokens : List Token}

/-- A framed line in its parts. -/
lemma toList_line_append (x : Framed) (after : String) :
    (x.line ++ after).toList =
      x.opening.toList ++ (x.fragment.toList ++ (x.closing.toList ++ '\n' :: after.toList)) := by
  simp [line]

/-- The line of a fragment has the tokens that are written in it, if no comment is open behind
the fragment. -/
theorem ofChars_line_append (h : i.framed? = some x)
    (htokens : Token.ofChars x.fragment.toList = .ok tokens)
    (hclosed : ¬ EndsInComment x.fragment.toList) (after : String) :
    Token.ofChars (x.line ++ after).toList =
      (Token.ofChars after.toList).map (x.opened ++ tokens ++ x.closed ++ ·) := by
  obtain ⟨y, more, hy, hmore⟩ := x.exists_separator after.toList
  have hfragment : Lexes (x.fragment.toList ++ (x.closing.toList ++ '\n' :: after.toList)) tokens
      (x.closing.toList ++ '\n' :: after.toList) :=
    hmore ▸ (Lexes.of_ofChars htokens).followed hy hclosed more
  have hbreak : Lexes ('\n' :: after.toList) [] after.toList := .step none rfl .done
  rw [toList_line_append, ((lexes_opening h _).trans
    (hfragment.trans ((x.lexes_closing _).trans hbreak))).ofChars_eq]
  simp only [List.append_assoc, List.nil_append]

/-- The line of a fragment behind which a comment is open has the tokens of the fragment and of
what is written before it. -/
theorem ofChars_line_append_of_endsInComment (h : i.framed? = some x)
    (htokens : Token.ofChars x.fragment.toList = .ok tokens)
    (hopen : EndsInComment x.fragment.toList) (after : String) :
    Token.ofChars (x.line ++ after).toList =
      (Token.ofChars after.toList).map (x.opened ++ tokens ++ ·) := by
  obtain ⟨y, more, hy, hmore⟩ := x.exists_separator after.toList
  have hparens : ∀ c ∈ x.closing.toList, decide (c ≠ '\n') = true := fun c hc => by
    rw [closing, String.toList_ofList] at hc
    rw [List.eq_of_mem_replicate hc]
    decide
  have hdrop : (y :: more).dropWhile (· ≠ '\n') = '\n' :: after.toList := by
    rw [← hmore, List.dropWhile_append_of_pos hparens]
    rfl
  have hfragment : Lexes (x.fragment.toList ++ (x.closing.toList ++ '\n' :: after.toList)) tokens
      ('\n' :: after.toList) :=
    hmore ▸ hdrop ▸ (Lexes.of_ofChars htokens).swallowed hy hopen more
  have hbreak : Lexes ('\n' :: after.toList) [] after.toList := .step none rfl .done
  rw [toList_line_append, ((lexes_opening h _).trans (hfragment.trans hbreak)).ofChars_eq]
  simp only [List.append_assoc, List.append_nil]

end Framed

/-- Statements are followed by code as they are written: they leave no comment open. -/
lemma Instruction.MadeOf.not_endsInComment {code : List Char} {statement : String}
    (h : (Instruction.exec statement).MadeOf code) : ¬ EndsInComment statement.toList := by
  cases h
  rw [String.toList_ofList]
  exact not_endsInComment_closeLineComment code

/-- An instruction that puts out a value has an expression for its fragment. -/
lemma Instruction.MadeOf.toList_fragment {i : Instruction} {x : Framed} {code : List Char}
    (h : i.MadeOf code) (hx : i.framed? = some x) (hexec : ∀ statement, i ≠ .exec statement) :
    x.fragment.toList = outputExpression code := by
  cases h with
  | exec => exact absurd rfl (hexec _)
  | escaped | raw =>
    cases hx
    exact String.toList_ofList

namespace Program

/-- **What follows a fragment of code in a program that a template is made into.**

1. The code that the template is made into for build tools has the listing of such a program in it.
2. Every fragment is made of the code of a tag.
3. A closing parenthesis behind a fragment is read as one if and only if no line comment is open
   behind the fragment.  Then the line of the fragment in the listing has all tokens that are
   written in it, and reading goes on behind it.
4. If a comment is open, it swallows the parenthesis, and in the listing all closing parentheses
   behind the fragment.
5. No comment is open behind statements, nor behind a fragment without the mark of a line comment on
   its last line.
6. But a comment is open behind every expression that is put out, if its tag has a line comment at
   the end of its code: the line break that should close the comment has been trimmed.

**Proof sketch.** A step of the reader does not see what follows a fragment
(`Script.Lexeme.next_append`), unless it stands before a comment that is still open.  The line break
behind statements closes such a comment (`not_endsInComment_closeLineComment`); trimming an
expression opens it again (`endsInComment_outputExpression`). -/
theorem fragments_followed (options : Options) (text : String) :
    (∀ code, prebuild options text = .ok code →
      ∃ (p : Program) (opening closing : String), p.MadeFrom options text ∧
        code = opening ++ p.listing ++ closing) ∧
    ∀ (p front behind : Program) (i : Instruction) (x : Framed) (tokens : List Token),
      p.MadeFrom options text → p = front ++ i :: behind → i.framed? = some x →
      Token.ofChars x.fragment.toList = .ok tokens →
      (∃ code, i.MadeOf code) ∧
      (Token.ofChars (x.fragment ++ ")").toList = .ok (tokens ++ [.symbol .closeParen]) ↔
        ¬ EndsInComment x.fragment.toList) ∧
      (¬ EndsInComment x.fragment.toList → ∃ after, p.listing = front.listing ++ x.line ++ after ∧
        Token.ofChars (x.line ++ after).toList =
          (Token.ofChars after.toList).map (x.opened ++ tokens ++ x.closed ++ ·)) ∧
      (EndsInComment x.fragment.toList →
        Token.ofChars (x.fragment ++ ")").toList = .ok tokens ∧
        ∃ after, p.listing = front.listing ++ x.line ++ after ∧
          Token.ofChars (x.line ++ after).toList =
            (Token.ofChars after.toList).map (x.opened ++ tokens ++ ·)) ∧
      (EndsInComment x.fragment.toList →
        (∀ statement, i ≠ .exec statement) ∧ endsInLineComment x.fragment.toList = true) ∧
      ∀ (code note blanks : List Char) (ts : List Token), (∀ statement, i ≠ .exec statement) →
        i.MadeOf (code ++ ' ' :: '/' :: '/' :: (note ++ blanks)) → Token.ofChars code = .ok ts →
        ¬ EndsInComment code → '\n' ∉ note → allBlank blanks = true →
        EndsInComment x.fragment.toList := by
  refine ⟨fun code h => ?_, ?_⟩
  · obtain ⟨p, opening, closing, hp, hcode⟩ := exists_of_prebuild h
    exact ⟨p, opening, closing, .prebuilt hp, hcode⟩
  rintro p front behind i x tokens hp rfl hx htokens
  obtain ⟨code, hcode⟩ := hp.isRead i (by simp) x hx
  obtain ⟨after, hlisting⟩ := exists_listing_of_framed hx front behind
  have hparen : (x.fragment ++ ")").toList = x.fragment.toList ++ [')'] := by simp
  have hlexes := Lexes.of_ofChars htokens
  have hread : ¬ EndsInComment x.fragment.toList →
      Token.ofChars (x.fragment ++ ")").toList = .ok (tokens ++ [.symbol .closeParen]) := by
    intro hclosed
    have hlast : Lexes [')'] [.symbol .closeParen] [] :=
      .step (some (.symbol .closeParen)) rfl .done
    rw [hparen, ((hlexes.followed separates_closeParen hclosed []).trans hlast).ofChars_eq,
      Token.ofChars_nil]
    simp [Except.map]
  have hswallow : EndsInComment x.fragment.toList →
      Token.ofChars (x.fragment ++ ")").toList = .ok tokens := by
    intro hopen
    rw [hparen, (hlexes.swallowed separates_closeParen hopen []).ofChars_eq]
    simp [Token.ofChars_nil, Except.map]
  refine ⟨⟨code, hcode⟩, ⟨fun heq hopen => ?_, hread⟩, fun hclosed => ⟨after, hlisting,
    Framed.ofChars_line_append hx htokens hclosed after⟩, fun hopen => ⟨hswallow hopen, after,
    hlisting, Framed.ofChars_line_append_of_endsInComment hx htokens hopen after⟩,
    fun hopen => ⟨?_, endsInLineComment_of_endsInComment hopen⟩, ?_⟩
  · rw [hswallow hopen] at heq
    simpa using Except.ok.inj heq
  · rintro statement rfl
    cases hx
    exact hcode.not_endsInComment hopen
  · intro code note blanks ts hexec hmade hts hclosed hnote hblanks
    rw [hmade.toList_fragment hx hexec]
    exact endsInComment_outputExpression hts hclosed hnote hblanks

/-- Statements with a line comment, and what is listed behind them. -/
theorem fragments_followed_statements :
    let w : Workspace := { library := (Templates.ofList []).library, lookup := Registry.lookup {} }
    let fragment := " a // note \n"
    let front : Program := []
    ∃ c after, w.compile {} "<% a // note %>!" = .ok c ∧
      c.program = front ++ Instruction.exec fragment :: [.append "!"] ∧
      Token.ofChars fragment.toList = .ok [.word "a"] ∧
      Token.ofChars (fragment ++ ")").toList = .ok [.word "a", .symbol .closeParen] ∧
      c.program.listing = "    ; " ++ fragment ++ "\n" ++ after ∧
      Token.ofChars ("    ; " ++ fragment ++ "\n" ++ after).toList =
        (Token.ofChars after.toList).map ([.symbol .semicolon, .word "a"] ++ ·) := by
  intro w fragment front
  obtain ⟨c, hc, hprogram⟩ : ∃ c, Template.expand w (.ofText {} "<% a // note %>!") = .ok c ∧
      c.program = front ++ Instruction.exec fragment :: [.append "!"] :=
    Template.exists_of_map_expand (by decide +kernel)
  have htokens : Token.ofChars fragment.toList = .ok [.word "a"] := by
    have hlexes : Lexes " a // note \n".toList [.word "a"] [] :=
      .step none rfl <| .step (some (.word "a")) rfl <| .step none rfl <| .step none rfl <|
      .step none rfl .done
    exact hlexes.ofChars_eq.trans (by rw [Token.ofChars_nil]; rfl)
  obtain ⟨-, hparen, hline, -, hstatements, -⟩ :=
    (fragments_followed {} "<% a // note %>!").2 c.program front [.append "!"] (.exec fragment) _
      [.word "a"] (.compiled hc) hprogram rfl htokens
  have hclosed : ¬ EndsInComment fragment.toList := fun hopen => (hstatements hopen).1 fragment rfl
  obtain ⟨after, hlisting, hafter⟩ := hline hclosed
  exact ⟨c, after, hc, hprogram, htokens, hparen.2 hclosed, hlisting, hafter⟩

/-- **A line comment in an expression that is put out** swallows the closing parentheses behind the
expression. -/
theorem fragments_followed_expression :
    let w : Workspace := { library := (Templates.ofList []).library, lookup := Registry.lookup {} }
    ∃ c, w.compile {} "<%= a // note %>" = .ok c ∧ c.program = [.appendEscaped "a // note"] ∧
      Token.ofChars "a // note".toList = .ok [.word "a"] ∧
      Token.ofChars "a // note)".toList = .ok [.word "a"] ∧
      c.program.listing = "    ; __append(escape(a // note))\n" ∧
      Token.ofChars c.program.listing.toList = .ok [.symbol .semicolon, .word "__append",
        .symbol .openParen, .word "escape", .symbol .openParen, .word "a"] := by
  intro w
  obtain ⟨c, hc, hprogram⟩ : ∃ c, Template.expand w (.ofText {} "<%= a // note %>") = .ok c ∧
      c.program = [.appendEscaped "a // note"] :=
    Template.exists_of_map_expand (by decide +kernel)
  have hlexes : Lexes "a // note".toList [.word "a"] [] :=
    .step (some (.word "a")) rfl <| .step none rfl <| .step none rfl .done
  have hopen : EndsInComment "a // note".toList :=
    ⟨[.word "a"], _, .step (some (.word "a")) rfl <| .step none rfl .done, _, rfl, by decide⟩
  have htokens : Token.ofChars "a // note".toList = .ok [.word "a"] :=
    hlexes.ofChars_eq.trans (by rw [Token.ofChars_nil]; rfl)
  have hparen := (hlexes.swallowed separates_closeParen hopen []).ofChars_eq
  have hline := Framed.ofChars_line_append_of_endsInComment
    (i := .appendEscaped "a // note") rfl htokens hopen ""
  have hlisting : c.program.listing = "    ; __append(escape(a // note))\n" := by
    rw [hprogram]
    rfl
  refine ⟨c, hc, hprogram, htokens, hparen.trans ?_, hlisting, ?_⟩
  · rw [List.dropWhile_cons_of_pos (by decide), List.dropWhile_nil, Token.ofChars_nil]
    rfl
  · rw [hlisting]
    exact hline.trans (by rw [String.toList_empty, Token.ofChars_nil]; rfl)

end Program

end Stencil
