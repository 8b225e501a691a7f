import Mathlib.Tactic.SplitIfs
import Stencil.Proofs.Script.Spelling

/-!
# Reading what was written

An expression that is written as tokens is read back from them.

## Main definitions

* `Stencil.Script.Gives` — what a reader gives with all fuel from some amount on.
* `Stencil.Script.Stops` — tokens that an expression does not go on with.
* `Stencil.Script.ReadsChain`, `ReadsUnary`, `ReadsOperand`, `ReadsWhole` — tokens that are read as
  an expression at the places of the grammar.

## Main results

* `Stencil.Script.Expr.readsBack` — what is written is read back at every place it is written for.
* `Stencil.Script.Expr.ofTokens_write` — an expression is what its tokens denote.

## Design

A reader for a chain of links or of infix operators does not return behind an expression: it goes on
with the expression as the base of the next link, or as the left operand of the next operator.  So
what is said of such tokens is that reading them and what follows ends as going on with the
expression ends.

Fuel is counted along: eight calls for every token that is left, and a few for the readers that are
still to be called before the next token.
-/

set_option relaxedAutoImplicit false
set_option autoImplicit false

namespace Stencil.Script

/-! ## Readers with fuel -/

/-- **What a reader gives** with eight calls for every token and some more. -/
def Gives {α : Type} (calls : Nat) (read : Nat → List Token → Except ReadFault α)
    (tokens : List Token) (result : Except ReadFault α) : Prop :=
  ∀ fuel, 8 * tokens.length + calls ≤ fuel → read fuel tokens = result

/-! ## What follows -/

/-- How tightly a symbol holds on to the expression in front of it, if it goes on with it. -/
def Symbol.bond? : Symbol → Option Nat
  | .dot | .optional | .openBracket | .openParen => some 10
  | .increment | .decrement => some 9
  | .question | .arrow => some 0
  | .assign | .plusAssign | .minusAssign | .timesAssign | .slashAssign => some 0
  | s => s.operator?.map Operator.precedence

/-- **Tokens that an expression of a level does not go on with:** no symbol in front holds on to it
as tightly. -/
def Stops (limit : Nat) (rest : List Token) : Prop :=
  ∀ s, rest.head? = some (.symbol s) → ∀ b, s.bond? = some b → b < limit

/-- What an expression does not go on with, one of a tighter level does not go on with either. -/
lemma Stops.mono {m n : Nat} {rest : List Token} (h : Stops m rest) (hmn : m ≤ n) :
    Stops n rest :=
  fun s hs b hb => Nat.lt_of_lt_of_le (h s hs b hb) hmn

/-- An expression does not go on with a symbol that holds on to it less tightly. -/
lemma stops_symbol {limit : Nat} {s : Symbol} {rest : List Token}
    (h : ∀ b, s.bond? = some b → b < limit) : Stops limit (.symbol s :: rest) := by
  rintro t ht
  cases ht
  exact h

/-- Nothing goes on where the tokens end. -/
lemma stops_nil (limit : Nat) : Stops limit [] := by
  rintro s hs
  cases hs

/-- The bond of an infix operator is its precedence. -/
lemma Symbol.bond?_of_operator? {s : Symbol} {op : Operator} (h : s.operator? = some op) :
    s.bond? = some op.precedence := by
  cases s <;> first | (cases h; rfl) | cases h

/-- An operand ends where no operator of the limit follows. -/
lemma readOperands_of_stops {limit : Nat} {rest : List Token} (h : Stops (max 1 limit) rest)
    (e : Expr) : Gives 1 (readOperands · limit e) rest (.ok (e, rest)) := by
  intro fuel hfuel
  obtain ⟨fuel, rfl⟩ : ∃ k, fuel = k + 1 := ⟨fuel - 1, by omega⟩
  rcases rest with _ | ⟨⟨x⟩ | ⟨t⟩ | ⟨n⟩ | ⟨s⟩, rest⟩
  · rfl
  · rfl
  · rfl
  · rfl
  · simp only [readOperands]
    cases hop : s.operator? with
    | none => rfl
    | some op =>
      have hlt := h s rfl _ (Symbol.bond?_of_operator? hop)
      have hpos := op.precedence_mem.1
      have hlimit : op.precedence < limit := by omega
      simp only [hlimit, if_true]

/-- The links of a chain, and what may stand behind them. -/
def readBehind (fuel : Nat) (base : Expr) (tokens : List Token) :
    Except ReadFault (Expr × List Token) := do
  let (e, tokens) ← readLinks fuel base tokens
  match tokens with
  | .symbol s :: rest =>
    match s.direction? with
    | some direction =>
      if e.isAssignable then .ok (.update e direction false, rest) else .ok (e, tokens)
    | none => .ok (e, tokens)
  | _ => .ok (e, tokens)

/-- A chain is its base and what stands behind it. -/
lemma readPostfix_succ (fuel : Nat) (tokens : List Token) :
    readPostfix (fuel + 1) tokens =
      (readPrimary fuel tokens).bind fun (base, tokens) => readBehind fuel base tokens := by
  rw [readPostfix]
  rfl

/-- No link begins with a symbol that holds on less tightly. -/
lemma readLinks_of_stops {rest : List Token} (h : Stops 10 rest) (fuel : Nat) (e : Expr) :
    readLinks (fuel + 1) e rest = .ok (e, rest) := by
  rcases rest with _ | ⟨⟨x⟩ | ⟨t⟩ | ⟨n⟩ | ⟨s⟩, rest⟩
  · rfl
  · rfl
  · rfl
  · rfl
  · have hs := h s rfl
    cases s <;> first | rfl | exact absurd (hs 10 rfl) (by decide)

/-- A chain ends where neither a link nor a count follows. -/
lemma readBehind_of_stops {rest : List Token} (h : Stops 9 rest) (e : Expr) :
    Gives 1 (readBehind · e) rest (.ok (e, rest)) := by
  intro fuel hfuel
  obtain ⟨fuel, rfl⟩ : ∃ k, fuel = k + 1 := ⟨fuel - 1, by omega⟩
  simp only [readBehind, readLinks_of_stops (h.mono (by decide))]
  rcases rest with _ | ⟨⟨x⟩ | ⟨t⟩ | ⟨n⟩ | ⟨s⟩, rest⟩
  · rfl
  · rfl
  · rfl
  · rfl
  · have hs := h s rfl
    cases s <;> first | rfl | exact absurd (hs 9 rfl) (by decide)

/-! ## Places of the grammar -/

/-- **Tokens that are read as the beginning of a chain:** what is read goes on with the expression
as a base. -/
def ReadsChain (ts : List Token) (e : Expr) : Prop :=
  ∀ rest result, Gives 1 (readBehind · e) rest result → Gives 3 readUnary (ts ++ rest) result

/-- **Tokens that are read as an operand.** -/
def ReadsUnary (ts : List Token) (e : Expr) : Prop :=
  ∀ rest, Stops 9 rest → Gives 3 readUnary (ts ++ rest) (.ok (e, rest))

/-- **Tokens that are read as operands of a level:** what is read goes on with the expression as a
left operand. -/
def ReadsOperand (level : Nat) (ts : List Token) (e : Expr) : Prop :=
  ∀ limit ≤ level, ∀ rest result, Stops (level + 1) rest →
    Gives 1 (readOperands · limit e) rest result →
      Gives 4 (readInfix · limit) (ts ++ rest) result

/-- **Tokens that are read as an expression.** -/
def ReadsWhole (ts : List Token) (e : Expr) : Prop :=
  ∀ rest, Stops 0 rest → Gives 6 readAssignment (ts ++ rest) (.ok (e, rest))

variable {ts us vs : List Token} {e : Expr}

/-- A chain is an operand without operators in front. -/
lemma ReadsChain.unary (h : ReadsChain ts e) : ReadsUnary ts e :=
  fun rest hrest => h rest _ (readBehind_of_stops hrest e)

/-- What is read as a unary expression is read as an operand. -/
lemma ReadsUnary.operand (h : ReadsUnary ts e) {level : Nat} (hl : level ≤ 8) :
    ReadsOperand level ts e := by
  intro limit _ rest result hrest hgo fuel hfuel
  obtain ⟨fuel, rfl⟩ : ∃ k, fuel = k + 1 := ⟨fuel - 1, by omega⟩
  rw [List.length_append] at hfuel
  have hread := h rest (hrest.mono (by omega)) fuel (by rw [List.length_append]; omega)
  simp only [readInfix, hread]
  exact hgo fuel (by omega)

/-- What is an operand of a tight operator is one of a looser operator. -/
lemma ReadsOperand.mono {m n : Nat} (h : ReadsOperand n ts e) (hmn : m ≤ n) :
    ReadsOperand m ts e := fun limit hl rest result hrest =>
  h limit (Nat.le_trans hl hmn) rest result (hrest.mono (by omega))

/-- An operand ends where no operator of its limit follows. -/
lemma ReadsOperand.ends {level limit : Nat} (h : ReadsOperand level ts e) (hl : limit ≤ level)
    {rest : List Token} (hrest : Stops (max 1 limit) rest) :
    Gives 4 (readInfix · limit) (ts ++ rest) (.ok (e, rest)) :=
  h limit hl rest _ (hrest.mono (by omega)) (readOperands_of_stops hrest e)

/-- An expression ends behind a choice where no assignment follows. -/
lemma readAssignment_of_choice {fuel : Nat} {tokens rest : List Token} (hrest : Stops 0 rest)
    (h : readChoice fuel tokens = .ok (e, rest)) :
    readAssignment (fuel + 1) tokens = .ok (e, rest) := by
  rw [readAssignment, h]
  rcases rest with _ | ⟨⟨x⟩ | ⟨t⟩ | ⟨n⟩ | ⟨s⟩, rest⟩
  · rfl
  · rfl
  · rfl
  · rfl
  · have hs := hrest s rfl
    cases s <;> first | rfl | exact absurd (hs _ rfl) (by decide)

/-- A choice ends behind its test where no question mark follows. -/
lemma readChoice_of_binary {fuel : Nat} {tokens rest : List Token}
    (hrest : ∀ behind, rest ≠ .symbol .question :: behind)
    (h : readInfix fuel 0 tokens = .ok (e, rest)) :
    readChoice (fuel + 1) tokens = .ok (e, rest) := by
  rw [readChoice, h]
  rcases rest with _ | ⟨⟨x⟩ | ⟨t⟩ | ⟨n⟩ | ⟨s⟩, rest⟩
  · rfl
  · rfl
  · rfl
  · rfl
  · cases s <;> first | rfl | exact absurd rfl (hrest _)

/-- What is read as an operand is read as an expression. -/
lemma ReadsOperand.whole (h : ReadsOperand 1 ts e) : ReadsWhole ts e := by
  intro rest hrest fuel hfuel
  obtain ⟨fuel, rfl⟩ : ∃ k, fuel = k + 2 := ⟨fuel - 2, by omega⟩
  have hread : readInfix fuel 0 (ts ++ rest) = .ok (e, rest) :=
    h.ends (Nat.zero_le 1) (hrest.mono (Nat.zero_le _)) fuel (by omega)
  refine readAssignment_of_choice hrest (readChoice_of_binary ?_ hread)
  rintro behind rfl
  exact absurd (hrest .question rfl 0 rfl) (Nat.lt_irrefl 0)

/-! ## Bases -/

/-- Whether a token begins a base: no operator, and no word that begins something else. -/
def Token.beginsBase : Token → Bool
  | .number _ | .text _ => true
  | .word n => !("typeof" :: unsupportedExpressions).contains n
  | .symbol s => s = .openParen || s = .openBracket || s = .openBrace

/-- The token that a base begins with is no operator in front of it. -/
lemma readUnary_of_base {token : Token} (h : token.beginsBase = true) (fuel : Nat)
    (rest : List Token) :
    readUnary (fuel + 1) (token :: rest) = readPostfix fuel (token :: rest) := by
  cases token with
  | number x => rfl
  | text s => rfl
  | word n =>
    simp only [Token.beginsBase, List.contains_cons, Bool.not_or, Bool.and_eq_true,
      Bool.not_eq_true', beq_eq_false_iff_ne] at h
    have hop : (Token.word n).unaryOp? = none := by
      unfold Token.unaryOp?
      split
      · contradiction
      · contradiction
      · contradiction
      · rename_i heq
        exact absurd (Token.word.inj heq) h.1
      · rfl
    simp only [readUnary, hop, h.2, if_neg Bool.false_ne_true]
  | symbol s => cases s <;> first | rfl | cases h

/-- A base begins a chain. -/
lemma ReadsChain.of_primary {token : Token} (htoken : token.beginsBase = true)
    (h : ∀ rest, Gives 1 readPrimary (token :: ts ++ rest) (.ok (e, rest))) :
    ReadsChain (token :: ts) e := by
  intro rest result hgo fuel hfuel
  obtain ⟨fuel, rfl⟩ : ∃ k, fuel = k + 2 := ⟨fuel - 2, by omega⟩
  have hread := h rest fuel (by omega)
  rw [List.cons_append, readUnary_of_base htoken, readPostfix_succ, ← List.cons_append, hread]
  exact hgo fuel (by simp only [List.length_append] at hfuel; omega)

/-- What stands in parentheses is read as a base. -/
lemma ReadsWhole.chain (h : ReadsWhole ts e) :
    ReadsChain (.symbol .openParen :: (ts ++ [.symbol .closeParen])) e := by
  refine .of_primary rfl fun rest fuel hfuel => ?_
  simp only [List.cons_append, List.append_assoc, List.nil_append, List.length_cons] at hfuel ⊢
  obtain ⟨fuel, rfl⟩ : ∃ k, fuel = k + 1 := ⟨fuel - 1, by omega⟩
  have hread := h (.symbol .closeParen :: rest) (stops_symbol nofun) fuel (by omega)
  rw [readPrimary, hread]
  rfl

/-- A name is a chain without links. -/
lemma readsChain_name {n : String} (h : n ∉ keywords) : ReadsChain [.word n] (.name n) := by
  simp only [keywords, List.cons_append, List.nil_append, List.mem_cons, not_or] at h
  obtain ⟨htrue, hfalse, hnull, hundefined, htypeof, hrest⟩ := h
  refine .of_primary ?_ fun rest fuel hfuel => ?_
  · simp [Token.beginsBase, htypeof, hrest]
  · obtain ⟨fuel, rfl⟩ : ∃ k, fuel = k + 1 := ⟨fuel - 1, by omega⟩
    simp [readPrimary, Expr.ofWord, htrue, hfalse, hnull, hundefined]

/-- The words of values are four. -/
lemma Token.ofWord_of_literal? {n : String} {v : Value} (h : (word n).literal? = some v) :
    Expr.ofWord n = .literal v ∧ n ∈ ["true", "false", "null", "undefined"] := by
  simp only [literal?] at h
  split at h
  · rename_i w hw
    cases h
    refine ⟨hw, ?_⟩
    unfold Expr.ofWord at hw
    split_ifs at hw with htrue hfalse hnull
    · simp [htrue]
    · simp [hfalse]
    · rcases hnull with hnull | hnull <;> simp [hnull]
  · cases h

/-- So is a literal. -/
lemma readsChain_literal {token : Token} {v : Value} (h : token.literal? = some v) :
    ReadsChain [token] (.literal v) := by
  refine .of_primary ?_ fun rest fuel hfuel => ?_
  · cases token with
    | number x => rfl
    | text s => rfl
    | symbol s => cases h
    | word n =>
      have hn := (Token.ofWord_of_literal? h).2
      simp only [List.mem_cons, List.not_mem_nil, or_false] at hn
      rcases hn with rfl | rfl | rfl | rfl <;> decide
  · obtain ⟨fuel, rfl⟩ : ∃ k, fuel = k + 1 := ⟨fuel - 1, by omega⟩
    cases token with
    | number x =>
      cases h
      rfl
    | text s =>
      cases h
      rfl
    | symbol s => cases h
    | word n =>
      rw [List.singleton_append, readPrimary, (Token.ofWord_of_literal? h).1]

/-! ## Items and members -/

/-- Tokens that are read as items up to a closing symbol. -/
def ReadsItems (close : Symbol) (ts : List Token) (items : List Expr) : Prop :=
  ∀ rest, Gives 7 (readItems · close) (ts ++ .symbol close :: rest) (.ok (items, rest))

/-- Tokens that are read as members up to the closing brace. -/
def ReadsMembers (ts : List Token) (entries : List (String × Expr)) : Prop :=
  ∀ rest, Gives 7 readMembers (ts ++ .symbol .closeBrace :: rest) (.ok (entries, rest))

/-- Items between brackets are a list. -/
lemma ReadsItems.list {items : List Expr} (h : ReadsItems .closeBracket ts items) :
    ReadsChain (.symbol .openBracket :: (ts ++ [.symbol .closeBracket])) (.list items) := by
  refine .of_primary rfl fun rest fuel hfuel => ?_
  simp only [List.cons_append, List.append_assoc, List.nil_append, List.length_cons] at hfuel ⊢
  obtain ⟨fuel, rfl⟩ : ∃ k, fuel = k + 1 := ⟨fuel - 1, by omega⟩
  have hread : readItems fuel .closeBracket (ts ++ .symbol .closeBracket :: rest) =
      .ok (items, rest) := h rest fuel (by omega)
  rw [readPrimary, hread]
  rfl

/-- Members between braces are an object. -/
lemma ReadsMembers.object {entries : List (String × Expr)} (h : ReadsMembers ts entries) :
    ReadsChain (.symbol .openBrace :: (ts ++ [.symbol .closeBrace])) (.object entries) := by
  refine .of_primary rfl fun rest fuel hfuel => ?_
  simp only [List.cons_append, List.append_assoc, List.nil_append, List.length_cons] at hfuel ⊢
  obtain ⟨fuel, rfl⟩ : ∃ k, fuel = k + 1 := ⟨fuel - 1, by omega⟩
  have hread := h rest fuel (by omega)
  rw [readPrimary, hread]
  rfl

/-- No expression begins with a closing bracket. -/
lemma readAssignment_of_close {s : Symbol} (hs : s = .closeParen ∨ s = .closeBracket)
    (fuel : Nat) (rest : List Token) (result : Expr × List Token) :
    readAssignment fuel (.symbol s :: rest) ≠ .ok result := by
  rcases hs with rfl | rfl <;>
    rcases fuel with _ | _ | _ | _ | _ | _ | fuel <;> exact nofun

/-- What is written between commas does not begin with the closing symbol. -/
lemma ReadsWhole.ne_close (h : ReadsWhole ts e) {s : Symbol}
    (hs : s = .closeParen ∨ s = .closeBracket) {rest : List Token} (hrest : Stops 0 rest)
    (behind : List Token) : ts ++ rest ≠ .symbol s :: behind := by
  intro heq
  have hread := h rest hrest _ (Nat.le_refl _)
  rw [heq] at hread
  exact readAssignment_of_close hs _ _ _ hread

/-- There may be no items. -/
lemma readsItems_nil (close : Symbol) : ReadsItems close [] [] := by
  intro rest fuel hfuel
  obtain ⟨fuel, rfl⟩ : ∃ k, fuel = k + 1 := ⟨fuel - 1, by omega⟩
  simp only [List.nil_append, readItems, if_true]
  rfl

/-- What follows an item: further items behind a comma, or the closing symbol. -/
def readNextItem (fuel : Nat) (close : Symbol) (item : Expr) (tokens : List Token) :
    Except ReadFault (List Expr × List Token) :=
  match tokens with
  | .symbol .comma :: rest => do
    let (items, tokens) ← readItems fuel close rest
    .ok (item :: items, tokens)
  | _ => do
    let tokens ← expect close tokens
    .ok ([item], tokens)

/-- Items that do not end at once begin with an item. -/
lemma readItems_succ {close : Symbol} {tokens : List Token}
    (h : ∀ rest, tokens ≠ .symbol close :: rest) (fuel : Nat) :
    readItems (fuel + 1) close tokens =
      (readAssignment fuel tokens).bind fun (item, tokens) =>
        readNextItem fuel close item tokens := by
  rcases tokens with _ | ⟨⟨x⟩ | ⟨t⟩ | ⟨n⟩ | ⟨s⟩, rest⟩
  · rfl
  · rfl
  · rfl
  · rfl
  · have hs : s ≠ close := fun heq => h rest (heq ▸ rfl)
    simp only [readItems, if_neg hs]
    rfl

/-- Items begin with what is read as an expression, and what follows it decides. -/
lemma ReadsWhole.items_of_next (h : ReadsWhole ts e) {close : Symbol}
    (hclose : close = .closeParen ∨ close = .closeBracket) {rest : List Token}
    (hrest : Stops 0 rest) {result : Except ReadFault (List Expr × List Token)}
    (hnext : ∀ fuel, 8 * rest.length ≤ fuel → readNextItem fuel close e rest = result) :
    Gives 7 (readItems · close) (ts ++ rest) result := by
  intro fuel hfuel
  obtain ⟨fuel, rfl⟩ : ∃ k, fuel = k + 1 := ⟨fuel - 1, by omega⟩
  have hread := h rest hrest fuel (by omega)
  simp only [readItems_succ (h.ne_close hclose hrest), hread]
  exact hnext fuel (by rw [List.length_append] at hfuel; omega)

/-- There may be one item. -/
lemma ReadsWhole.item (h : ReadsWhole ts e) {close : Symbol}
    (hclose : close = .closeParen ∨ close = .closeBracket) : ReadsItems close ts [e] := by
  intro rest
  have hstops : Stops 0 (.symbol close :: rest) :=
    stops_symbol (by rcases hclose with rfl | rfl <;> nofun)
  refine h.items_of_next hclose hstops fun fuel _ => ?_
  rcases hclose with rfl | rfl <;> rfl

/-- There may be an item and others behind a comma. -/
lemma ReadsWhole.items (h : ReadsWhole ts e) {close : Symbol}
    (hclose : close = .closeParen ∨ close = .closeBracket) {items : List Expr}
    (hitems : ReadsItems close us items) :
    ReadsItems close (ts ++ .symbol .comma :: us) (e :: items) := by
  intro rest
  have hstops : Stops 0 (.symbol .comma :: (us ++ .symbol close :: rest)) := stops_symbol nofun
  rw [List.append_assoc, List.cons_append]
  refine h.items_of_next hclose hstops fun fuel hfuel => ?_
  have hothers : readItems fuel close (us ++ .symbol close :: rest) = .ok (items, rest) :=
    hitems rest fuel (by rw [List.length_cons] at hfuel; omega)
  simp only [readNextItem, hothers]
  rfl

/-- What follows a member: further members behind a comma, or the closing brace. -/
def readNextMember (fuel : Nat) (key : String) (value : Expr) (tokens : List Token) :
    Except ReadFault (List (String × Expr) × List Token) :=
  match tokens with
  | .symbol .comma :: rest => do
    let (entries, tokens) ← readMembers fuel rest
    .ok ((key, value) :: entries, tokens)
  | _ => do
    let tokens ← expect .closeBrace tokens
    .ok ([(key, value)], tokens)

/-- A member with a value begins with its key. -/
lemma readMembers_succ {token : Token} {k : String} (hkey : token.key? = some k) (fuel : Nat)
    (tokens : List Token) :
    readMembers (fuel + 1) (token :: .symbol .colon :: tokens) =
      (readAssignment fuel tokens).bind fun (value, tokens) =>
        readNextMember fuel k value tokens := by
  cases token with
  | symbol s => cases hkey
  | number x =>
    cases hkey
    rfl
  | text s =>
    cases hkey
    rfl
  | word n =>
    cases hkey
    rfl

/-- There may be no members. -/
lemma readsMembers_nil : ReadsMembers [] [] := by
  intro rest fuel hfuel
  obtain ⟨fuel, rfl⟩ : ∃ k, fuel = k + 1 := ⟨fuel - 1, by omega⟩
  rfl

/-- Members begin with a key and what is read as its value, and what follows these decides. -/
lemma ReadsWhole.members_of_next (h : ReadsWhole ts e) {token : Token} {k : String}
    (hkey : token.key? = some k) {rest : List Token} (hrest : Stops 0 rest)
    {result : Except ReadFault (List (String × Expr) × List Token)}
    (hnext : ∀ fuel, 8 * rest.length + 7 ≤ fuel → readNextMember fuel k e rest = result) :
    Gives 7 readMembers (token :: .symbol .colon :: (ts ++ rest)) result := by
  intro fuel hfuel
  simp only [List.length_cons] at hfuel
  obtain ⟨fuel, rfl⟩ : ∃ k, fuel = k + 1 := ⟨fuel - 1, by omega⟩
  have hread := h rest hrest fuel (by omega)
  rw [readMembers_succ hkey, hread]
  exact hnext fuel (by rw [List.length_append] at hfuel; omega)

/-- There may be one member. -/
lemma ReadsWhole.member (h : ReadsWhole ts e) {token : Token} {k : String}
    (hkey : token.key? = some k) : ReadsMembers (token :: .symbol .colon :: ts) [(k, e)] := by
  intro rest
  have hstops : Stops 0 (.symbol .closeBrace :: rest) := stops_symbol nofun
  exact h.members_of_next hkey hstops fun _ _ => rfl

/-- There may be a member and others behind a comma. -/
lemma ReadsWhole.members (h : ReadsWhole ts e) {token : Token} {k : String}
    (hkey : token.key? = some k) {entries : List (String × Expr)}
    (hentries : ReadsMembers us entries) :
    ReadsMembers (token :: .symbol .colon :: ts ++ .symbol .comma :: us) ((k, e) :: entries) := by
  intro rest
  have hstops : Stops 0 (.symbol .comma :: (us ++ .symbol .closeBrace :: rest)) :=
    stops_symbol nofun
  simp only [List.cons_append, List.append_assoc]
  refine h.members_of_next hkey hstops fun fuel hfuel => ?_
  have hothers := hentries rest fuel (by rw [List.length_cons] at hfuel; omega)
  simp only [readNextMember, hothers]
  rfl

/-! ## Links -/

/-- A chain goes on with a link if the links behind its base are read on behind the link. -/
lemma ReadsChain.link {link : List Token} {e' : Expr} (h : ReadsChain ts e) (hne : link ≠ [])
    (hlink : ∀ rest fuel, 8 * (link ++ rest).length ≤ fuel →
      readLinks (fuel + 1) e (link ++ rest) = readLinks fuel e' rest) :
    ReadsChain (ts ++ link) e' := by
  intro rest result hgo
  rw [List.append_assoc]
  refine h _ _ fun fuel hfuel => ?_
  obtain ⟨fuel, rfl⟩ : ∃ k, fuel = k + 1 := ⟨fuel - 1, by omega⟩
  have hpos : 0 < link.length := List.length_pos_iff.mpr hne
  have hread : readBehind fuel e' rest = result :=
    hgo fuel (by rw [List.length_append] at hfuel; omega)
  rw [← hread]
  simp only [readBehind, hlink rest fuel (by omega)]

/-- A chain goes on with a member by name. -/
lemma ReadsChain.member (h : ReadsChain ts e) (n : String) (optional : Bool) :
    ReadsChain (ts ++ [.symbol (if optional then .optional else .dot), .word n])
      (.member e n optional) := by
  refine h.link (by simp) fun rest fuel _ => ?_
  cases optional <;> rfl

/-- A chain goes on with a member by value. -/
lemma ReadsChain.index (h : ReadsChain ts e) {k : Expr} (hkey : ReadsWhole us k)
    (optional : Bool) :
    ReadsChain (ts ++ ((if optional then [.symbol .optional] else []) ++
      .symbol .openBracket :: (us ++ [.symbol .closeBracket]))) (.index e k optional) := by
  refine h.link (by simp) fun rest fuel hfuel => ?_
  have hstops : Stops 0 (.symbol .closeBracket :: rest) := stops_symbol nofun
  simp only [List.append_assoc, List.cons_append, List.nil_append, List.length_append,
    List.length_cons] at hfuel ⊢
  have hread := hkey _ hstops fuel (by
    simp only [List.length_append, List.length_cons]
    omega)
  cases optional with
  | false =>
    simp only [if_neg Bool.false_ne_true, List.nil_append, readLinks, hread]
    rfl
  | true =>
    simp only [if_true, List.cons_append, List.nil_append, readLinks, hread]
    rfl

/-- A chain goes on with a call. -/
lemma ReadsChain.call (h : ReadsChain ts e) {args : List Expr}
    (hargs : ReadsItems .closeParen us args) :
    ReadsChain (ts ++ .symbol .openParen :: (us ++ [.symbol .closeParen])) (.call e args) := by
  refine h.link (by simp) fun rest fuel hfuel => ?_
  simp only [List.append_assoc, List.cons_append, List.nil_append, List.length_cons] at hfuel ⊢
  have hread : readItems fuel .closeParen (us ++ .symbol .closeParen :: rest) =
      .ok (args, rest) := hargs rest fuel (by omega)
  simp only [readLinks, hread]
  rfl

/-- A count behind its target. -/
lemma ReadsChain.countAfter (h : ReadsChain ts e) (he : e.isAssignable = true) (d : Direction) :
    ReadsUnary (ts ++ [.symbol d.symbol]) (.update e d false) := by
  intro rest _
  rw [List.append_assoc]
  refine h _ _ fun fuel hfuel => ?_
  obtain ⟨fuel, rfl⟩ : ∃ k, fuel = k + 1 := ⟨fuel - 1, by omega⟩
  have hstops : Stops 10 (.symbol d.symbol :: rest) :=
    stops_symbol (by cases d <;> rintro b ⟨⟩ <;> decide)
  simp only [List.cons_append, List.nil_append, readBehind, readLinks_of_stops hstops]
  simp only [bind, Except.bind, Direction.direction?_symbol, he, if_true]

/-! ## Operators -/

/-- A count in front of its target. -/
lemma ReadsUnary.countBefore (h : ReadsUnary ts e) (he : e.isAssignable = true) (d : Direction) :
    ReadsUnary (.symbol d.symbol :: ts) (.update e d true) := by
  intro rest hrest fuel hfuel
  obtain ⟨fuel, rfl⟩ : ∃ k, fuel = k + 1 := ⟨fuel - 1, by omega⟩
  simp only [List.cons_append, List.length_cons] at hfuel ⊢
  have hread := h rest hrest fuel (by omega)
  have hop : (Token.symbol d.symbol).unaryOp? = none := by cases d <;> rfl
  simp only [readUnary, hop, Direction.direction?_symbol, hread]
  simp only [bind, Except.bind, he, if_true]

/-- An operator in front of its operand. -/
lemma ReadsUnary.unary (h : ReadsUnary ts e) (op : UnaryOp) :
    ReadsUnary (op.token :: ts) (.unary op e) := by
  intro rest hrest fuel hfuel
  obtain ⟨fuel, rfl⟩ : ∃ k, fuel = k + 1 := ⟨fuel - 1, by omega⟩
  simp only [List.cons_append, List.length_cons] at hfuel ⊢
  have hread := h rest hrest fuel (by omega)
  simp only [readUnary, UnaryOp.unaryOp?_token, hread]
  rfl

/-- An operator between its operands.  The left one may end in operators of its own strength,
the right one may not. -/
lemma ReadsOperand.operator {op : Operator} {e' : Expr}
    (hleft : ReadsOperand op.precedence ts e) (hright : ReadsOperand (op.precedence + 1) us e') :
    ReadsOperand op.precedence (ts ++ .symbol op.symbol :: us) (op.apply e e') := by
  intro limit hlimit rest result hrest hgo
  have hbond : op.symbol.bond? = some op.precedence :=
    Symbol.bond?_of_operator? op.operator?_symbol
  have hstops : Stops (op.precedence + 1) (.symbol op.symbol :: (us ++ rest)) :=
    stops_symbol (by rw [hbond]; rintro b ⟨⟩; exact Nat.lt_succ_self _)
  rw [List.append_assoc, List.cons_append]
  refine hleft limit hlimit _ _ hstops fun fuel hfuel => ?_
  obtain ⟨fuel, rfl⟩ : ∃ k, fuel = k + 1 := ⟨fuel - 1, by omega⟩
  simp only [List.length_cons] at hfuel
  have hread : readInfix fuel (op.precedence + 1) (us ++ rest) = .ok (e', rest) :=
    hright.ends (Nat.le_refl _) (hrest.mono (by omega)) fuel (by omega)
  have hon : readOperands fuel limit (op.apply e e') rest = result :=
    hgo fuel (by rw [List.length_append] at hfuel; omega)
  simp only [readOperands, Operator.operator?_symbol, if_neg (Nat.not_lt.mpr hlimit), hread]
  exact hon

/-! ## Choices and assignments -/

/-- A choice is read from its three parts. -/
lemma ReadsOperand.choice (htest : ReadsOperand 1 ts e) {yes no : Expr} (hyes : ReadsWhole us yes)
    (hno : ReadsWhole vs no) :
    ReadsWhole (ts ++ .symbol .question :: (us ++ .symbol .colon :: vs)) (.choice e yes no) := by
  intro rest hrest fuel hfuel
  obtain ⟨fuel, rfl⟩ : ∃ k, fuel = k + 2 := ⟨fuel - 2, by omega⟩
  refine readAssignment_of_choice hrest ?_
  have hquestion : Stops 1 (.symbol .question :: (us ++ .symbol .colon :: (vs ++ rest))) :=
    stops_symbol (by rintro b ⟨⟩; decide)
  have hcolon : Stops 0 (.symbol .colon :: (vs ++ rest)) := stops_symbol nofun
  simp only [List.append_assoc, List.cons_append, List.length_append, List.length_cons]
    at hfuel ⊢
  have htestRead : readInfix fuel 0 _ = _ := htest.ends (Nat.zero_le 1) hquestion fuel (by
    simp only [List.length_append, List.length_cons]
    omega)
  have hyesRead := hyes _ hcolon fuel (by
    simp only [List.length_append, List.length_cons]
    omega)
  have hnoRead := hno rest hrest fuel (by rw [List.length_append]; omega)
  rw [readChoice, htestRead]
  simp only [bind, Except.bind, hyesRead, expect, if_true, hnoRead]

/-- An assignment is read from its target and its value.

**Proof sketch.** The target is read as a choice, which ends at the symbol, and then the value is
read as an assignment. -/
lemma ReadsChain.assign (htarget : ReadsChain ts e) (he : e.isAssignable = true) {s : Symbol}
    {op : Option BinaryOp} (hs : s.assignment? = some op) {value : Expr}
    (hvalue : ReadsWhole us value) :
    ReadsWhole (ts ++ .symbol s :: us) (.assign e op value) := by
  intro rest hrest fuel hfuel
  obtain ⟨fuel, rfl⟩ : ∃ k, fuel = k + 3 := ⟨fuel - 3, by omega⟩
  have hbond : s.bond? = some 0 ∧ s ≠ .arrow ∧ s ≠ .question := by
    cases s <;> first | exact ⟨rfl, by decide, by decide⟩ | cases hs
  have hassign : Stops 1 (.symbol s :: (us ++ rest)) :=
    stops_symbol (by rw [hbond.1]; rintro b ⟨⟩; decide)
  simp only [List.append_assoc, List.cons_append, List.length_append, List.length_cons]
    at hfuel ⊢
  have htargetRead : readInfix (fuel + 1) 0 _ = _ :=
    (htarget.unary.operand (by decide : 1 ≤ 8)).ends (Nat.zero_le 1) hassign (fuel + 1) (by
      simp only [List.length_append, List.length_cons]
      omega)
  have hchoice := readChoice_of_binary (by rintro behind ⟨⟩; exact hbond.2.2 rfl) htargetRead
  have hvalueRead := hvalue rest hrest (fuel + 2) (by rw [List.length_append]; omega)
  rw [readAssignment, hchoice]
  simp only [bind, Except.bind, if_neg hbond.2.1, hs, he, if_true, hvalueRead]

/-! ## All expressions -/

/-- An expression that is read back from its tokens at every place that its level is enough
for. -/
structure Expr.ReadsBack (p : Spelling) (e : Expr) : Prop where
  /-- By itself. -/
  whole : ReadsWhole (e.bare p) e
  /-- Between infix operators. -/
  operand : ∀ level, 1 ≤ level → level ≤ 8 → level ≤ e.level → ReadsOperand level (e.bare p) e
  /-- Behind an operator. -/
  unary : 8 ≤ e.level → ReadsUnary (e.bare p) e
  /-- In front of a link. -/
  chain : 10 ≤ e.level → ReadsChain (e.bare p) e

namespace Expr.ReadsBack

variable {p : Spelling}

/-- An expression that is written as a chain is read back everywhere. -/
lemma of_chain (h : ReadsChain (e.bare p) e) : e.ReadsBack p where
  whole := (h.unary.operand (by decide)).whole
  operand _ _ hle _ := h.unary.operand hle
  unary _ := h.unary
  chain _ := h

/-- So is one that is written with an operator in front, at the places that allow one. -/
lemma of_unary (h : ReadsUnary (e.bare p) e) (hl : e.level < 10) : e.ReadsBack p where
  whole := (h.operand (by decide)).whole
  operand _ _ hle _ := h.operand hle
  unary _ := h
  chain hge := absurd hge (Nat.not_le.mpr hl)

/-- So is one that is written with infix operators. -/
lemma of_operand (h : ReadsOperand e.level (e.bare p) e) (hpos : 1 ≤ e.level) (hl : e.level < 8) :
    e.ReadsBack p where
  whole := (h.mono hpos).whole
  operand _ _ _ hle := h.mono hle
  unary hge := absurd hge (Nat.not_le.mpr hl)
  chain hge := absurd hge (by omega)

/-- So is one that is written without brackets only where a whole expression stands. -/
lemma of_whole (h : ReadsWhole (e.bare p) e) (hl : e.level = 0) : e.ReadsBack p where
  whole := h
  operand _ hpos _ hle := absurd hle (by omega)
  unary hge := absurd hge (by omega)
  chain hge := absurd hge (by omega)

/-- In front of a link, in parentheses unless it is a chain. -/
lemma write_chain (h : e.ReadsBack p) : ReadsChain (enclose 10 e.level (e.bare p)) e := by
  unfold enclose
  split
  · exact h.whole.chain
  · exact h.chain (by omega)

/-- Behind an operator, in parentheses unless it is a chain or a unary expression. -/
lemma write_unary (h : e.ReadsBack p) : ReadsUnary (enclose 8 e.level (e.bare p)) e := by
  unfold enclose
  split
  · exact h.whole.chain.unary
  · exact h.unary (by omega)

/-- Between infix operators, in parentheses unless it binds as tightly. -/
lemma write_operand (h : e.ReadsBack p) {level : Nat} (hpos : 1 ≤ level) (hle : level ≤ 8) :
    ReadsOperand level (enclose level e.level (e.bare p)) e := by
  unfold enclose
  split
  · exact h.whole.chain.unary.operand hle
  · exact h.operand level hpos hle (by omega)

end Expr.ReadsBack

mutual

/-- **An expression is read back from its tokens.**

**Proof sketch.** Induction on the expression.  Its parts are read back at the places they are
written for, where parentheses stand around those whose level is not enough, and the reader of the
whole goes on behind each. -/
theorem Expr.readsBack (p : Spelling) (e : Expr) (h : e.Denotable p) : e.ReadsBack p := by
  cases e with
  | literal v => exact .of_chain (readsChain_literal h)
  | name n => exact .of_chain (readsChain_name h)
  | list items => exact .of_chain (Expr.readsBack_items p items h (.inr rfl)).list
  | object entries => exact .of_chain (Expr.readsBack_members p entries h).object
  | member owner n optional =>
    exact .of_chain ((Expr.readsBack p owner h).write_chain.member n optional)
  | index owner key optional =>
    have hread := (Expr.readsBack p owner h.1).write_chain.index (Expr.readsBack p key h.2).whole
      optional
    refine .of_chain ?_
    simpa only [Expr.bare, List.append_assoc, List.cons_append] using hread
  | call callee args =>
    have hread := (Expr.readsBack p callee h.1).write_chain.call
      (Expr.readsBack_items p args h.2 (.inl rfl))
    refine .of_chain ?_
    simpa only [Expr.bare, List.append_assoc, List.cons_append] using hread
  | unary op operand =>
    exact .of_unary ((Expr.readsBack p operand h).write_unary.unary op) (by simp [Expr.level])
  | binary op left right =>
    obtain ⟨hpos, hle⟩ := (Operator.binary op).precedence_mem
    have hleft := (Expr.readsBack p left h.1).write_operand hpos (by omega)
    have hright :=
      (Expr.readsBack p right h.2).write_operand (Nat.succ_pos _) (Nat.succ_le_succ hle)
    exact .of_operand (hleft.operator hright) hpos (Nat.lt_succ_of_le hle)
  | logical op left right =>
    obtain ⟨hpos, hle⟩ := (Operator.logical op).precedence_mem
    have hleft := (Expr.readsBack p left h.1).write_operand hpos (by omega)
    have hright :=
      (Expr.readsBack p right h.2).write_operand (Nat.succ_pos _) (Nat.succ_le_succ hle)
    exact .of_operand (hleft.operator hright) hpos (Nat.lt_succ_of_le hle)
  | choice test yes no =>
    have hread := ((Expr.readsBack p test h.1).write_operand (by decide) (by decide)).choice
      (Expr.readsBack p yes h.2.1).whole (Expr.readsBack p no h.2.2).whole
    refine .of_whole ?_ rfl
    simpa only [Expr.bare, List.append_assoc, List.cons_append] using hread
  | assign target op value =>
    obtain ⟨htarget, hsymbol, hread, hvalue⟩ := h
    obtain ⟨s, hs⟩ := Option.isSome_iff_exists.mp hsymbol
    refine .of_whole ?_ rfl
    simp only [Expr.bare, hs, Option.getD_some]
    exact (Expr.readsBack p target hread).write_chain.assign htarget
      (Symbol.assignment?_of_symbol hs) (Expr.readsBack p value hvalue).whole
  | update target d before =>
    have hread := Expr.readsBack p target h.2
    cases before with
    | false => exact .of_unary (hread.write_chain.countAfter h.1 d) (by simp [Expr.level])
    | true => exact .of_unary (hread.write_unary.countBefore h.1 d) (by simp [Expr.level])

/-- Expressions between commas are read back. -/
theorem Expr.readsBack_items (p : Spelling) (items : List Expr) (h : Expr.AllDenotable p items)
    {close : Symbol} (hclose : close = .closeParen ∨ close = .closeBracket) :
    ReadsItems close (Expr.bareItems p items) items := by
  match items with
  | [] => exact readsItems_nil close
  | [e] => exact (Expr.readsBack p e h.1).whole.item hclose
  | e :: e' :: rest =>
    exact (Expr.readsBack p e h.1).whole.items hclose
      (Expr.readsBack_items p (e' :: rest) h.2 hclose)

/-- Members between commas are read back. -/
theorem Expr.readsBack_members (p : Spelling) (entries : List (String × Expr))
    (h : Expr.MembersDenotable p entries) :
    ReadsMembers (Expr.bareMembers p entries) entries := by
  match entries with
  | [] => exact readsMembers_nil
  | [(k, e)] => exact (Expr.readsBack p e h.2.1).whole.member h.1
  | (k, e) :: entry :: rest =>
    exact (Expr.readsBack p e h.2.1).whole.members h.1
      (Expr.readsBack_members p (entry :: rest) h.2.2)

end

/-- **An expression is what its tokens denote:** written with parentheses only where its parts would
otherwise be read apart, it is read back up to the end of the tokens.

**Proof sketch.** Every reader reads back what was written for it (`Expr.readsBack`), with any fuel
that is enough, and as much as there are tokens is. -/
theorem Expr.ofTokens_write (p : Spelling) (e : Expr) (h : e.Denotable p) :
    Expr.ofTokens (e.write p 0) = .ok (e, []) := by
  have hread := (Expr.readsBack p e h).whole [] (stops_nil 0) (fuelFor (e.bare p))
  rw [List.append_nil] at hread
  exact hread (by unfold fuelFor; omega)

/-- Texts in quotes, truth values and nothing as words, and keys in quotes. -/
def Spelling.quoted : Spelling where
  literal
    | .text s => .text s
    | .bool true => .word "true"
    | .bool false => .word "false"
    | _ => .word "null"
  key := .text

/-- The tokens of `a.b += !(c - (d - e)) ? [f || g, "t"] : h[k]--`, whose parentheses are the ones
that have to be there. -/
theorem Expr.ofTokens_write_combined :
    let name := Expr.name
    let difference := Expr.binary .sub (name "c") (.binary .sub (name "d") (name "e"))
    let e := Expr.assign (.member (name "a") "b" false) (some .add)
      (.choice (.unary .not difference)
        (.list [.logical .or (name "f") (name "g"), .literal (.text "t")])
        (.update (.index (name "h") (name "k") false) .down false))
    e.Denotable .quoted ∧
      e.write .quoted 0 =
        [.word "a", .symbol .dot, .word "b", .symbol .plusAssign, .symbol .bang,
          .symbol .openParen, .word "c", .symbol .minus, .symbol .openParen, .word "d",
          .symbol .minus, .word "e", .symbol .closeParen, .symbol .closeParen, .symbol .question,
          .symbol .openBracket, .word "f", .symbol .orOr, .word "g", .symbol .comma, .text "t",
          .symbol .closeBracket, .symbol .colon, .word "h", .symbol .openBracket, .word "k",
          .symbol .closeBracket, .symbol .decrement] ∧
      Expr.ofTokens (e.write .quoted 0) = .ok (e, []) := by
  intro name difference e
  have h : e.Denotable .quoted := by
    simp [e, name, difference, Expr.Denotable, Expr.AllDenotable, Expr.isAssignable,
      assignmentSymbol?, Spelling.quoted, Token.literal?, keywords, unsupportedExpressions]
  exact ⟨h, rfl, Expr.ofTokens_write _ e h⟩

end Stencil.Script
