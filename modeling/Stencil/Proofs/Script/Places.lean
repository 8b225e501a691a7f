import Stencil.Proofs.Script.Congruence
import Stencil.Script.Token.Lexer

/-!
# Places that are changed

An assignment with an operator and a count read a place and write it again.  The place is given by
an expression with keys in it, which is gone through once for the value and a second time for the
place; what is evaluated in between, and the keys themselves, may change what the second time leads
to.

## Main definitions

* `Stencil.Script.Expr.IsPath` — a path from a name, by members and keys.
* `Stencil.Script.Scope.valueAt` — the value that a path of keys leads to.
* `Stencil.Script.Change` — an assignment with an operator, or a count.

## Main results

* `Stencil.Script.evalChain_eq_ok_iff` — the value of a path is the one that its keys lead to.
* `Stencil.Script.eval_change` — what a change reads and what it writes.

## Design

A member by name is read like the member by that text as a key, because a name is never the numeral
of a position.  So one path of keys stands for the members and the indices of an expression.
-/

set_option relaxedAutoImplicit false
set_option autoImplicit false

namespace Stencil

/-! ## Names are no positions -/

/-- A name does not begin with a digit. -/
lemma Script.isDigit_of_isNameStart {c : Char} (h : isNameStart c = true) :
    Text.isDigit c = false := by
  rw [Bool.eq_false_iff]
  intro hdigit
  simp only [Text.isDigit, Bool.and_eq_true, decide_eq_true_eq, Char.le_def,
    UInt32.le_iff_toNat_le] at hdigit
  have hlow : 48 ≤ c.toNat := hdigit.1
  have hhigh : c.toNat ≤ 57 := hdigit.2
  have hascii : c.toNat < 0x80 := by omega
  simp only [isNameStart, Text.isAlphabetic, hascii, if_true, Text.isAsciiLetter, Bool.or_eq_true,
    Bool.and_eq_true, decide_eq_true_eq, Char.le_def, UInt32.le_iff_toNat_le, beq_iff_eq] at h
  rcases h with ((⟨hletter, -⟩ | ⟨hletter, -⟩) | rfl) | rfl
  · have : 97 ≤ c.toNat := hletter
    omega
  · have : 65 ≤ c.toNat := hletter
    omega
  · revert hhigh
    decide
  · revert hlow
    decide

/-- A text that begins like a name is no numeral. -/
lemma Decimal.readMagnitude?_of_isNameStart {c : Char} (h : Script.isNameStart c = true)
    (rest : List Char) : readMagnitude? (c :: rest) = none := by
  have hdigit := Script.isDigit_of_isNameStart h
  have hpoint : c ≠ '.' := by
    rintro rfl
    revert h
    decide
  unfold readMagnitude?
  simp [hdigit, hpoint]

namespace Value

open Script

/-- A name is the numeral of no position.  The names of numbers that are not finite are none
either.

**Proof sketch.** What begins a name is neither a sign nor a digit, so only the names of infinity
and of the undefined number are left to be read, and these are no positions. -/
lemma arrayIndex?_of_isNameStart {name : String} (h : name.toList.head?.any isNameStart = true) :
    (Value.text name).arrayIndex? = none := by
  cases hname : name.toList with
  | nil =>
    rw [hname] at h
    cases h
  | cons c rest =>
    rw [hname] at h
    have hc : isNameStart c = true := h
    have hminus : c ≠ '-' := by
      rintro rfl
      revert hc
      decide
    have hplus : c ≠ '+' := by
      rintro rfl
      revert hc
      decide
    have hread : Decimal.readFloat? (c :: rest) = Decimal.readName? (c :: rest) := by
      unfold Decimal.readFloat?
      split
      · next heq => exact absurd (List.cons_eq_cons.1 heq).1 hminus
      · next heq => exact absurd (List.cons_eq_cons.1 heq).1 hplus
      · dsimp only
        rw [Decimal.readMagnitude?_of_isNameStart hc]
        rfl
    have hinfinite : Decimal.Binary.ofFloat? (1.0 / 0.0) = none := by decide +kernel
    have hundefined : Decimal.Binary.ofFloat? (0.0 / 0.0) = none := by decide +kernel
    simp only [arrayIndex?, hname, hread, Decimal.readName?]
    split
    · rw [Option.bind_some, hinfinite]
    · split
      · rw [Option.bind_some, hundefined]
      · rfl

/-- A member by a name is the member by that text as a key. -/
lemma readIndex_text {name : String} (h : name.toList.head?.any isNameStart = true) (v : Value) :
    readIndex v (.text name) = v.getProperty name := by
  unfold readIndex
  cases v with
  | null => rfl
  | _ => simp [isNull, getIndex, arrayIndex?_of_isNameStart h, propertyKey]

end Value

namespace Script

open Process (bind_eq_ok_iff)

variable {functions : Functions} {root : String} {target : Expr} {s t : Scope}

/-! ## Paths -/

/-- **A path from a name:** members, each by a name, and indices, without optional links. -/
inductive Expr.IsPath (root : String) : Expr → Prop
  /-- The name. -/
  | name : IsPath root (.name root)
  /-- A member of what a path leads to. -/
  | member {owner : Expr} {property : String} : IsPath root owner →
    property.toList.head?.any isNameStart = true → IsPath root (.member owner property false)
  /-- An index into what a path leads to. -/
  | index {owner : Expr} (key : Expr) : IsPath root owner → IsPath root (.index owner key false)

/-- **The value that a path of keys leads to** from a name. -/
def Scope.valueAt (s : Scope) (root : String) (keys : List Value) : Except Fault Value :=
  match s.get? root with
  | some v => keys.foldlM readIndex v
  | none => .error (.undefinedName root)

/-- One more key is read in what the path before it leads to. -/
lemma Scope.valueAt_concat (s : Scope) (root : String) (keys : List Value) (key : Value) :
    s.valueAt root (keys ++ [key]) = (s.valueAt root keys).bind (readIndex · key) := by
  unfold valueAt
  cases s.get? root with
  | none => rfl
  | some v =>
    simp only [List.foldlM_append, List.foldlM_cons, List.foldlM_nil]
    cases keys.foldlM readIndex v with
    | error fault => rfl
    | ok v =>
      show (readIndex v key >>= pure) = readIndex v key
      rw [bind_pure]

/-! ## Evaluation -/

/-- The value of an expression is that of its chain, or nothing where this was cut short. -/
lemma eval_eq_ok_iff {e : Expr} {v : Value} :
    eval functions e s = (.ok v, t) ↔
      ∃ x, evalChain functions e s = (.ok x, t) ∧ x.getD .null = v := by
  unfold eval
  rw [bind_eq_ok_iff]
  constructor
  · rintro ⟨x, u, hx, hv⟩
    cases hv
    exact ⟨x, hx, rfl⟩
  · rintro ⟨x, hx, rfl⟩
    exact ⟨x, t, hx, rfl⟩

/-- The place of a name. -/
lemma evalPlace_name (name : String) :
    evalPlace functions (.name name) s = (.ok (some (name, [])), s) := by
  rw [evalPlace]
  rfl

/-- The place of a member is one key further than that of its owner. -/
lemma evalPlace_member_eq_ok_iff {owner : Expr} {property : String} {optional : Bool}
    {place : Option (String × List Value)} :
    evalPlace functions (.member owner property optional) s = (.ok place, t) ↔
      ∃ before, evalPlace functions owner s = (.ok before, t) ∧
        before.map (fun p => (p.1, p.2 ++ [.text property])) = place := by
  rw [evalPlace, bind_eq_ok_iff]
  constructor
  · rintro ⟨before, u, hbefore, hplace⟩
    cases before <;> cases hplace <;> exact ⟨_, hbefore, rfl⟩
  · rintro ⟨before, hbefore, rfl⟩
    exact ⟨before, t, hbefore, by cases before <;> rfl⟩

/-- The place of an index is one key further than that of its owner, and the key is evaluated behind
those before it. -/
lemma evalPlace_index_eq_ok_iff {owner key : Expr} {optional : Bool}
    {place : Option (String × List Value)} :
    evalPlace functions (.index owner key optional) s = (.ok place, t) ↔
      (evalPlace functions owner s = (.ok none, t) ∧ place = none) ∨
        ∃ root keys u k, evalPlace functions owner s = (.ok (some (root, keys)), u) ∧
          eval functions key u = (.ok k, t) ∧ place = some (root, keys ++ [k]) := by
  rw [evalPlace, bind_eq_ok_iff]
  constructor
  · rintro ⟨before, u, hbefore, hplace⟩
    cases before with
    | none =>
      cases hplace
      exact .inl ⟨hbefore, rfl⟩
    | some before =>
      obtain ⟨x, v, hx, hv⟩ := bind_eq_ok_iff.1 hplace
      cases hv
      exact .inr ⟨before.1, before.2, u, _, hbefore, eval_eq_ok_iff.2 ⟨x, hx, rfl⟩, rfl⟩
  · rintro (⟨hbefore, rfl⟩ | ⟨root, keys, u, k, hbefore, hk, rfl⟩)
    · exact ⟨none, t, hbefore, rfl⟩
    · obtain ⟨x, hx, rfl⟩ := eval_eq_ok_iff.1 hk
      exact ⟨_, u, hbefore, bind_eq_ok_iff.2 ⟨x, t, hx, rfl⟩⟩

namespace Expr.IsPath

/-- A path denotes a place below its name.

**Proof sketch.** Induction on the path.  Each member and each key is put behind the keys of the
owner. -/
lemma exists_keys (h : IsPath root target) {place : Option (String × List Value)}
    (hplace : evalPlace functions target s = (.ok place, t)) :
    ∃ keys, place = some (root, keys) := by
  induction h generalizing place t with
  | name =>
    rw [evalPlace_name] at hplace
    cases hplace
    exact ⟨[], rfl⟩
  | member _ _ ih =>
    obtain ⟨before, hbefore, rfl⟩ := evalPlace_member_eq_ok_iff.1 hplace
    obtain ⟨keys, rfl⟩ := ih hbefore
    exact ⟨_, rfl⟩
  | index key _ ih =>
    rcases evalPlace_index_eq_ok_iff.1 hplace with
      ⟨hbefore, -⟩ | ⟨root', keys, u, k, hbefore, -, rfl⟩
    · obtain ⟨keys, hkeys⟩ := ih hbefore
      cases hkeys
    · obtain ⟨keys', hkeys⟩ := ih hbefore
      cases hkeys
      exact ⟨_, rfl⟩

/-- Where the name of a path is no namespace, a member of the path is read from its owner. -/
lemma constantOr_eq (h : IsPath root target) (hroot : isNamespace s root = false)
    (property : String) (otherwise : Eval (Option Value)) :
    constantOr target property otherwise s = otherwise s := by
  cases h with
  | name =>
    have hconstant : constant? s root property = none := by simp [constant?, hroot]
    show (match constant? s root property with
      | some v => (return some v : Eval (Option Value))
      | none => otherwise) s = otherwise s
    rw [hconstant]
  | member | index => rfl

end Expr.IsPath

/-- What does not look at the scope leaves it as it is. -/
lemma ofExcept_bind_eq_ok_iff {r : Except Fault Value} {x : Option Value} :
    (do return some (← Eval.ofExcept r) : Eval (Option Value)) s = (.ok x, t) ↔
      ∃ v, r = .ok v ∧ x = some v ∧ s = t := by
  rw [bind_eq_ok_iff]
  constructor
  · rintro ⟨v, u, hv, hx⟩
    cases hv
    cases hx
    exact ⟨v, rfl, rfl, rfl⟩
  · rintro ⟨v, rfl, rfl, rfl⟩
    exact ⟨v, s, rfl, rfl⟩

/-- One more key leads on from where those before it have led. -/
lemma Scope.valueAt_concat_eq_ok_iff {keys : List Value} {key v : Value} :
    s.valueAt root (keys ++ [key]) = .ok v ↔
      ∃ owner, s.valueAt root keys = .ok owner ∧ readIndex owner key = .ok v := by
  rw [valueAt_concat]
  cases s.valueAt root keys with
  | error fault => simp [Except.bind]
  | ok owner => simp [Except.bind]

/-- **The value of a path is the one that its keys lead to.**  The name is read first: what the keys
change on the way is not seen.

**Proof sketch.** Induction on the path.  Each link is read in the value of its owner, and its key
is evaluated behind those before it. -/
theorem evalChain_eq_ok_iff (h : Expr.IsPath root target) (hroot : isNamespace s root = false)
    {x : Option Value} :
    evalChain functions target s = (.ok x, t) ↔
      ∃ keys v, evalPlace functions target s = (.ok (some (root, keys)), t) ∧
        s.valueAt root keys = .ok v ∧ x = some v := by
  induction h generalizing x t with
  | name =>
    rw [evalChain, bind_eq_ok_iff]
    simp only [evalPlace_name, readName, Scope.valueAt]
    cases s.get? root with
    | none =>
      constructor
      · rintro ⟨v, u, hread, -⟩
        cases hread
      · rintro ⟨keys, v, -, hv, -⟩
        cases hv
    | some value =>
      constructor
      · rintro ⟨v, u, hread, hx⟩
        cases hread
        cases hx
        exact ⟨[], value, rfl, rfl, rfl⟩
      · rintro ⟨keys, v, hplace, hv, rfl⟩
        cases hplace
        cases hv
        exact ⟨value, _, rfl, rfl⟩
  | @member owner property howner hproperty ih =>
    rw [evalChain_member, howner.constantOr_eq hroot, readMember, bind_eq_ok_iff]
    simp only [Bool.false_and, Bool.false_eq_true, if_false]
    constructor
    · rintro ⟨y, u, hy, hx⟩
      obtain ⟨keys, v, hplace, hv, rfl⟩ := ih.1 hy
      obtain ⟨a, ha, rfl, rfl⟩ := ofExcept_bind_eq_ok_iff.1 hx
      rw [← Value.readIndex_text hproperty] at ha
      exact ⟨_, a, evalPlace_member_eq_ok_iff.2 ⟨_, hplace, rfl⟩,
        Scope.valueAt_concat_eq_ok_iff.2 ⟨v, hv, ha⟩, rfl⟩
    · rintro ⟨keys, a, hplace, ha, rfl⟩
      obtain ⟨before, hbefore, hkeys⟩ := evalPlace_member_eq_ok_iff.1 hplace
      obtain ⟨keys', rfl⟩ := howner.exists_keys hbefore
      cases hkeys
      obtain ⟨v, hv, ha⟩ := Scope.valueAt_concat_eq_ok_iff.1 ha
      rw [Value.readIndex_text hproperty] at ha
      exact ⟨some v, t, ih.2 ⟨keys', v, hbefore, hv, rfl⟩,
        ofExcept_bind_eq_ok_iff.2 ⟨a, ha, rfl, rfl⟩⟩
  | @index owner key howner ih =>
    rw [evalChain, bind_eq_ok_iff]
    simp only [Bool.false_and, Bool.false_eq_true, if_false]
    constructor
    · rintro ⟨y, u, hy, hx⟩
      obtain ⟨keys, v, hplace, hv, rfl⟩ := ih.1 hy
      obtain ⟨k, u', hk, hx⟩ := bind_eq_ok_iff.1 hx
      obtain ⟨a, ha, rfl, rfl⟩ := ofExcept_bind_eq_ok_iff.1 hx
      exact ⟨_, a, evalPlace_index_eq_ok_iff.2 (.inr ⟨root, keys, u, _, hplace,
        eval_eq_ok_iff.2 ⟨k, hk, rfl⟩, rfl⟩), Scope.valueAt_concat_eq_ok_iff.2 ⟨v, hv, ha⟩, rfl⟩
    · rintro ⟨keys, a, hplace, ha, rfl⟩
      rcases evalPlace_index_eq_ok_iff.1 hplace with
        ⟨-, hnone⟩ | ⟨root', keys', u, k, hbefore, hk, hsome⟩
      · cases hnone
      · cases hsome
        obtain ⟨v, hv, ha⟩ := Scope.valueAt_concat_eq_ok_iff.1 ha
        obtain ⟨y, hy, rfl⟩ := eval_eq_ok_iff.1 hk
        exact ⟨some v, u, ih.2 ⟨keys', v, hbefore, hv, rfl⟩, bind_eq_ok_iff.2 ⟨y, t, hy,
          ofExcept_bind_eq_ok_iff.2 ⟨a, ha, rfl, rfl⟩⟩⟩

/-! ## Changes -/

/-- **A change of what is at a place.** -/
inductive Change where
  /-- An assignment with an operator. -/
  | combine (op : BinaryOp) (value : Expr)
  /-- A count; its value is the one before or after. -/
  | count (direction : Direction) (before : Bool)

namespace Change

/-- The expression that makes a change of what a target denotes. -/
def expr (target : Expr) : Change → Expr
  | combine op value => .assign target (some op) value
  | count direction before => .update target direction before

/-- What a change evaluates beside its target: the right side of an assignment. -/
def operand (functions : Functions) : Change → Eval Value
  | combine _ value => eval functions value
  | count _ _ => return .null

/-- What a change writes, given what it has read and the operand. -/
def written : Change → Value → Value → Value
  | combine op _, a, b => op.apply a b
  | count direction _, a, _ => .ofFloat (a.toFloat + direction.delta)

/-- The value of a change, given what it has read and the operand. -/
def result : Change → Value → Value → Value
  | combine op _, a, b => op.apply a b
  | count _ false, a, _ => .ofFloat a.toFloat
  | count direction true, a, _ => .ofFloat (a.toFloat + direction.delta)

end Change

/-- A value is assigned to a place that there is. -/
lemma assignTo_eq_ok_iff {keys : List Value} {value : Value} {u : Unit} :
    assignTo (some (root, keys)) value s = (.ok u, t) ↔ s.assignAt root keys value = .ok t := by
  simp only [assignTo]
  cases s.assignAt root keys value with
  | error fault =>
    constructor <;> intro h <;> cases h
  | ok s' =>
    constructor
    · intro h
      cases h
      rfl
    · intro h
      cases h
      rfl

/-- A change evaluates its target, its operand and the place of its target, one after the
other, and then writes. -/
lemma evalChain_change (change : Change) :
    evalChain functions (change.expr target) = do
      let a ← eval functions target
      let b ← change.operand functions
      let place ← evalPlace functions target
      assignTo place (change.written a b)
      return some (change.result a b) := by
  cases change with
  | combine op value =>
    simp only [Change.expr, Change.operand, Change.written, Change.result, evalChain, eval,
      bind_assoc, pure_bind]
  | count direction before =>
    simp only [Change.expr, Change.operand, Change.written, evalChain, eval, bind_assoc, pure_bind]
    cases before <;> rfl

/-- A change in terms of its place: the keys of the target are evaluated once to read and once
more, behind the operand, to write.

**Proof sketch.** The evaluation of a change is a sequence of four steps: to read the target, to
evaluate the operand, to find the place again and to write.  Each succeeds as stated. -/
lemma eval_change_eq_ok_iff (h : Expr.IsPath root target) (hroot : isNamespace s root = false)
    (change : Change) {r : Value} :
    eval functions (change.expr target) s = (.ok r, t) ↔
      ∃ keys s₁ a b s₂ keys' s₃,
        evalPlace functions target s = (.ok (some (root, keys)), s₁) ∧
        s.valueAt root keys = .ok a ∧ change.operand functions s₁ = (.ok b, s₂) ∧
        evalPlace functions target s₂ = (.ok (some (root, keys')), s₃) ∧
        s₃.assignAt root keys' (change.written a b) = .ok t ∧ r = change.result a b := by
  rw [eval_eq_ok_iff, evalChain_change]
  constructor
  · rintro ⟨x, hx, rfl⟩
    obtain ⟨a, s₁, ha, hx⟩ := bind_eq_ok_iff.1 hx
    obtain ⟨b, s₂, hb, hx⟩ := bind_eq_ok_iff.1 hx
    obtain ⟨place, s₃, hagain, hx⟩ := bind_eq_ok_iff.1 hx
    obtain ⟨done, t', ht, hx⟩ := bind_eq_ok_iff.1 hx
    cases hx
    obtain ⟨y, hy, rfl⟩ := eval_eq_ok_iff.1 ha
    obtain ⟨keys, v, hplace, hv, rfl⟩ := (evalChain_eq_ok_iff h hroot).1 hy
    obtain ⟨keys', rfl⟩ := h.exists_keys hagain
    exact ⟨keys, s₁, v, b, s₂, keys', s₃, hplace, hv, hb, hagain, assignTo_eq_ok_iff.1 ht, rfl⟩
  · rintro ⟨keys, s₁, a, b, s₂, keys', s₃, hplace, ha, hb, hagain, ht, rfl⟩
    have hread : eval functions target s = (.ok a, s₁) :=
      eval_eq_ok_iff.2 ⟨some a, (evalChain_eq_ok_iff h hroot).2 ⟨keys, a, hplace, ha, rfl⟩, rfl⟩
    refine ⟨some (change.result a b), bind_eq_ok_iff.2 ⟨a, s₁, hread, ?_⟩, rfl⟩
    refine bind_eq_ok_iff.2 ⟨b, s₂, hb, bind_eq_ok_iff.2 ⟨_, s₃, hagain, ?_⟩⟩
    exact bind_eq_ok_iff.2 ⟨(), t, assignTo_eq_ok_iff.2 ht, rfl⟩

/-- **What a change reads and what it writes.**  Let the target be a path from a name that stands
for no namespace.  A change evaluates the keys of its target, and reads what they lead to in the
scope before.  It evaluates its operand.  Then it evaluates the keys once more, and writes where
they lead to now.

So one place is touched if the keys are the same the second time and change nothing then, and if
they leave the name bound as it is the first time: the change is computed from what the keys lead to
behind them, and written there in the scope behind the operand.

**Proof sketch.** The value of a path is the one that its keys lead to (`evalChain_eq_ok_iff`).  For
the second part, what is evaluated the second time is put for what is evaluated the first time. -/
theorem eval_change (h : Expr.IsPath root target) (hroot : isNamespace s root = false)
    (change : Change) (r : Value) (t : Scope) :
    (eval functions (change.expr target) s = (.ok r, t) ↔
      ∃ keys s₁ a b s₂ keys' s₃,
        evalPlace functions target s = (.ok (some (root, keys)), s₁) ∧
        s.valueAt root keys = .ok a ∧ change.operand functions s₁ = (.ok b, s₂) ∧
        evalPlace functions target s₂ = (.ok (some (root, keys')), s₃) ∧
        s₃.assignAt root keys' (change.written a b) = .ok t ∧ r = change.result a b) ∧
    ∀ keys s₁ b s₂, evalPlace functions target s = (.ok (some (root, keys)), s₁) →
      s₁.get? root = s.get? root → change.operand functions s₁ = (.ok b, s₂) →
      evalPlace functions target s₂ = (.ok (some (root, keys)), s₂) →
      (eval functions (change.expr target) s = (.ok r, t) ↔
        ∃ a, s₁.valueAt root keys = .ok a ∧
          s₂.assignAt root keys (change.written a b) = .ok t ∧ r = change.result a b) := by
  refine ⟨eval_change_eq_ok_iff h hroot change, fun keys s₁ b s₂ hplace hget hoperand hagain => ?_⟩
  have hvalue : s₁.valueAt root keys = s.valueAt root keys := by
    rw [Scope.valueAt, hget, Scope.valueAt]
  rw [eval_change_eq_ok_iff h hroot, hvalue]
  constructor
  · rintro ⟨_, _, a, _, _, _, _, hplace', ha, hoperand', hagain', ht, hr⟩
    cases hplace.symm.trans hplace'
    cases hoperand.symm.trans hoperand'
    cases hagain.symm.trans hagain'
    exact ⟨a, ha, ht, hr⟩
  · rintro ⟨a, ha, ht, hr⟩
    exact ⟨keys, s₁, a, b, s₂, keys, s₂, hplace, ha, hoperand, hagain, ht, hr⟩

/-- An assignment with an operator to a member of a member, by a key that a name is bound to. -/
theorem eval_change_nested :
    let target : Expr := .index (.member (.name "page") "meta" false) (.name "k") false
    let change := Change.combine .add (.literal (.text "!"))
    let scope (title : String) : Scope :=
      { globals := [("k", .text "title"),
          ("page", .object [("meta", .object [("title", .text title)])])] }
    target.IsPath "page" ∧ isNamespace (scope "Home") "page" = false ∧
      evalPlace [] target (scope "Home") =
        (.ok (some ("page", [.text "meta", .text "title"])), scope "Home") ∧
      eval [] (change.expr target) (scope "Home") = (.ok (.text "Home!"), scope "Home!") := by
  intro target change scope
  have hpath : target.IsPath "page" := .index _ (.member .name (by decide))
  have hroot : isNamespace (scope "Home") "page" = false := rfl
  refine ⟨hpath, hroot, rfl, ?_⟩
  exact ((eval_change hpath hroot change _ _).2 [.text "meta", .text "title"] (scope "Home")
    (.text "!") (scope "Home") rfl rfl rfl rfl).2 ⟨.text "Home", rfl, rfl, rfl⟩

/-- An assignment with an operator whose key takes the first of a list.  The key is evaluated twice,
so what is read at one place is written at another, and at the place that was read nothing is
changed. -/
theorem eval_change_shifting :
    let target : Expr :=
      .index (.name "o") (.call (.member (.name "ks") "shift" false) []) false
    let change := Change.combine .add (.literal (.text "!"))
    let scope (keys : List Value) (a b : String) : Scope :=
      { globals := [("ks", .list keys), ("o", .object [("a", .text a), ("b", .text b)])] }
    let s := scope [.text "a", .text "b"] "1" "2"
    let s₁ := scope [.text "b"] "1" "2"
    evalPlace [] target s = (.ok (some ("o", [.text "a"])), s₁) ∧
      s₁.valueAt "o" [.text "a"] = .ok (.text "1") ∧
      change.operand [] s₁ = (.ok (.text "!"), s₁) ∧
      s₁.assignAt "o" [.text "a"] (.text "1!") = .ok (scope [.text "b"] "1!" "2") ∧
      eval [] (change.expr target) s = (.ok (.text "1!"), scope [] "1" "1!") ∧
      scope [] "1" "1!" ≠ scope [.text "b"] "1!" "2" := by
  intro target change scope s s₁
  refine ⟨rfl, rfl, rfl, rfl, rfl, ?_⟩
  intro h
  have hkeys := congrArg (fun s : Scope => s.get? "ks") h
  cases hkeys

end Script

end Stencil
