import Stencil.Proofs.Script.Chains

/-!
# Splitting, joining and replacing

A text that is split at another and joined with a third is the text with every occurrence replaced;
joined with the same it is as it was.

## Main results

* `Stencil.Text.intercalate_splitOn_eq` — the pieces between the occurrences of a text, put together
  with another between them.
* `Stencil.Text.replaceAll_self` — replacing a text by itself changes nothing.
* `Stencil.Script.eval_method` — a method that changes nothing is called on the value of its owner.
* `Stencil.Script.eval_split_join` — the three methods agree.

## Design

The pieces and the replacement are found by one search: both go through the text from left to right
and pass over as many characters as are left of the occurrence found last.  So each fact is an
induction on the text, for any number of characters to be passed over.
-/

set_option relaxedAutoImplicit false
set_option autoImplicit false

namespace Stencil

/-! ## Texts -/

namespace Text

variable {p : List Char}

/-- A text has at least one piece. -/
lemma splitFrom_ne_nil (p : List Char) (skip : Nat) (s : List Char) : splitFrom p skip s ≠ [] := by
  induction s generalizing skip with
  | nil => simp [splitFrom]
  | cons c s ih =>
    cases skip with
    | succ skip => exact ih skip
    | zero =>
      rw [splitFrom]
      split
      · exact List.cons_ne_nil _ _
      · split <;> exact List.cons_ne_nil _ _

/-- The pieces of what is left of a text, with `r` between them. -/
lemma intercalate_splitFrom (p r : List Char) (skip : Nat) (s : List Char) :
    r.intercalate (splitFrom p skip s) = replaceFrom p r skip s := by
  induction s generalizing skip with
  | nil => cases skip <;> simp [splitFrom, replaceFrom]
  | cons c s ih =>
    cases skip with
    | succ skip => exact ih skip
    | zero =>
      rw [splitFrom, replaceFrom]
      split
      · rw [List.intercalate_cons_of_ne_nil (splitFrom_ne_nil _ _ _), ih, List.nil_append]
      · rw [← ih 0]
        obtain ⟨piece, pieces, hpieces⟩ := List.exists_cons_of_ne_nil (splitFrom_ne_nil p 0 s)
        rw [hpieces]
        cases pieces with
        | nil => simp
        | cons next pieces => simp [List.intercalate_cons_cons]

/-- **The pieces between the occurrences of a text,** with another between them, are the text with
every occurrence replaced. -/
theorem intercalate_splitOn_eq (p r s : List Char) :
    r.intercalate (splitOn p s) = replaceAll p r s :=
  intercalate_splitFrom p r 0 s

/-- Replacing a text by itself leaves what has not been passed over. -/
lemma replaceFrom_self (hp : p ≠ []) (skip : Nat) (s : List Char) :
    replaceFrom p p skip s = s.drop skip := by
  induction s generalizing skip with
  | nil => cases skip <;> simp [replaceFrom]
  | cons c s ih =>
    cases skip with
    | succ skip => exact ih skip
    | zero =>
      rw [replaceFrom]
      split
      next hstart =>
        obtain ⟨rest, hrest⟩ := Option.isSome_iff_exists.1 hstart
        obtain ⟨a, q, rfl⟩ := List.exists_cons_of_ne_nil hp
        have hs := dropPrefix?_eq_some_iff.1 hrest
        obtain ⟨rfl, rfl⟩ := List.cons.inj hs
        rw [ih]
        simp
      · rw [ih]
        rfl

/-- **Replacing a text by itself** changes nothing. -/
theorem replaceAll_self (hp : p ≠ []) (s : List Char) : replaceAll p p s = s :=
  replaceFrom_self hp 0 s

end Text

namespace Script

open Value

/-! ## Methods -/

/-- The characters of a text, with nothing between them. -/
lemma intercalate_splitText_self (p s : List Char) : p.intercalate (splitText p s) = s := by
  unfold splitText
  split
  next hempty =>
    obtain rfl := List.isEmpty_iff.1 hempty
    induction s with
    | nil => rfl
    | cons c s ih => cases s <;> simp_all [List.intercalate_cons_cons]
  next hempty =>
    rw [Text.intercalate_splitOn_eq, Text.replaceAll_self (by simpa using hempty)]

/-- The pieces of a text, with another between them. -/
lemma intercalate_splitText {p : List Char} (hp : p ≠ []) (r s : List Char) :
    r.intercalate (splitText p s) = replaceEvery p r s := by
  rw [splitText, replaceEvery, if_neg (by simpa using hp), if_neg (by simpa using hp),
    Text.intercalate_splitOn_eq]

/-- The pieces of a text as a list of texts. -/
def pieces (x p : String) : List Value :=
  (splitText p.toList x.toList).map fun cs => .text (String.ofList cs)

/-- What splitting a text gives. -/
lemma callMethod_split (x p : String) :
    callMethod (.text x) "split" [.text p] = .ok (.list (pieces x p)) := rfl

/-- What joining a list gives. -/
lemma callMethod_join (items : List Value) (r : String) :
    callMethod (.list items) "join" [.text r] =
      .ok (.text (r.intercalate (items.map Value.display))) := rfl

/-- What replacing in a text gives. -/
lemma callMethod_replaceAll (x p r : String) :
    callMethod (.text x) "replaceAll" [.text p, .text r] =
      .ok (.text (String.ofList (replaceEvery p.toList r.toList x.toList))) := rfl

/-- The pieces of a text joined. -/
lemma intercalate_pieces (x p r : String) :
    r.intercalate ((pieces x p).map Value.display) =
      String.ofList (r.toList.intercalate (splitText p.toList x.toList)) := by
  rw [← String.toList_inj, String.toList_intercalate, String.toList_ofList, pieces, List.map_map,
    List.map_map]
  congr 1
  exact (List.map_congr_left fun cs _ => String.toList_ofList).trans (List.map_id _)

/-! ## Expressions -/

variable {functions : Functions} {s t u : Scope} {e : Expr} {v w : Value}

/-- Something that an expression gives is what its chain leads to. -/
lemma evalChain_of_eval (hv : v ≠ .null) (h : eval functions e s = (.ok v, t)) :
    evalChain functions e s = (.ok (some v), t) := by
  obtain ⟨x, hx, hvalue⟩ := eval_eq_ok_iff.1 h
  cases x with
  | none => exact absurd hvalue.symm hv
  | some x =>
    obtain rfl : x = v := hvalue
    exact hx

/-- An expression in front of others is evaluated first. -/
lemma evalList_cons {rest : List Expr} {values : List Value}
    (he : eval functions e s = (.ok v, t)) (hrest : evalList functions rest t = (.ok values, u)) :
    evalList functions (e :: rest) s = (.ok (v :: values), u) := by
  obtain ⟨x, hx, rfl⟩ := eval_eq_ok_iff.1 he
  rw [evalList, Process.bind_apply_ok hx, Process.bind_apply_ok hrest]
  rfl

/-- **A method that changes nothing is called on the value of its owner,** with the values of its
arguments. -/
theorem eval_method {property : String} {args : List Expr} {values : List Value}
    (hproperty : isChanging property = false) (he : eval functions e s = (.ok v, t))
    (hv : v ≠ .null) (hargs : evalList functions args t = (.ok values, u))
    (hcall : callMethod v property values = .ok w) :
    eval functions (e.chain [.method property false args]) s = (.ok w, u) := by
  refine eval_eq_ok_iff.2 ⟨some w, ?_, rfl⟩
  have hspace : ∀ n, e = .name n → isNamespace s n = false := by
    rintro n rfl
    exact isNamespace_of_eval_name he
  rw [Expr.chain, Expr.chain, evalChain_onto (by simp [Link.isChanging, hproperty]) hspace,
    Process.bind_apply_ok (evalChain_of_eval hv he)]
  show (evalList functions args >>= fun values => do
    return some (← Eval.ofExcept (callMethod v property values))) t = _
  rw [Process.bind_apply_ok hargs, hcall]
  rfl

/-- **Splitting, joining and replacing agree.**  Let three expressions give texts.  The first split
at the second and joined with the second is the first, also where the second is empty.  Where it is
not empty, the first split at the second and joined with the third is the first with every
occurrence of the second replaced by the third.

**Proof sketch.** What is put together of the pieces of a text is known (`intercalate_splitText`,
`intercalate_splitText_self`), and the methods are called one after the other (`eval_method`). -/
theorem eval_split_join (functions : Functions) {s : Scope} {text separator other : Expr}
    {x p r : String} (htext : eval functions text s = (.ok (.text x), s))
    (hseparator : eval functions separator s = (.ok (.text p), s))
    (hother : eval functions other s = (.ok (.text r), s)) :
    eval functions (text.chain
        [.method "split" false [separator], .method "join" false [separator]]) s =
      (.ok (.text x), s) ∧
    (p ≠ "" → ∃ y : String,
      eval functions (text.chain
          [.method "split" false [separator], .method "join" false [other]]) s =
        (.ok (.text y), s) ∧
      eval functions (text.chain [.method "replaceAll" false [separator, other]]) s =
        (.ok (.text y), s)) := by
  have hargs {e : Expr} {v : Value} (he : eval functions e s = (.ok v, s)) :
      evalList functions [e] s = (.ok [v], s) := evalList_cons he rfl
  have hsplit : eval functions (text.chain [.method "split" false [separator]]) s =
      (.ok (.list (pieces x p)), s) :=
    eval_method rfl htext nofun (hargs hseparator) (callMethod_split x p)
  have hjoin {e : Expr} {y : String} (he : eval functions e s = (.ok (.text y), s)) :
      eval functions (text.chain [.method "split" false [separator], .method "join" false [e]]) s =
        (.ok (.text (y.intercalate ((pieces x p).map Value.display))), s) :=
    eval_method rfl hsplit nofun (hargs he) (callMethod_join _ y)
  refine ⟨?_, fun hp => ⟨_, hjoin hother, ?_⟩⟩
  · rw [hjoin hseparator, intercalate_pieces, intercalate_splitText_self, String.ofList_toList]
  · have hne : p.toList ≠ [] := by simpa using hp
    rw [intercalate_pieces, intercalate_splitText hne]
    exact eval_method rfl htext nofun (evalList_cons hseparator (hargs hother))
      (callMethod_replaceAll x p r)

/-- A text in which occurrences overlap, adjoin and stand at both ends. -/
theorem eval_split_join_overlapping :
    let s : Scope := { globals := [("p", .text "aa"), ("r", .text "b"), ("t", .text "aaaaa-aa")] }
    eval [] (.name "t") s = (.ok (.text "aaaaa-aa"), s) ∧
      eval [] (.name "p") s = (.ok (.text "aa"), s) ∧ eval [] (.name "r") s = (.ok (.text "b"), s) ∧
      "aa" ≠ "" ∧
      eval [] ((Expr.name "t").chain
        [.method "split" false [.name "p"], .method "join" false [.name "p"]]) s =
          (.ok (.text "aaaaa-aa"), s) ∧
      ∃ y : String,
        eval [] ((Expr.name "t").chain
            [.method "split" false [.name "p"], .method "join" false [.name "r"]]) s =
          (.ok (.text y), s) ∧
        eval [] ((Expr.name "t").chain [.method "replaceAll" false [.name "p", .name "r"]]) s =
          (.ok (.text y), s) := by
  intro s
  have hagree := @eval_split_join [] s (.name "t") (.name "p") (.name "r") _ _ _ rfl rfl rfl
  exact ⟨rfl, rfl, rfl, by decide, hagree.1, hagree.2 (by decide)⟩

end Script

end Stencil
