import Stencil.Proofs.Block.Nesting
import Stencil.Proofs.Script.Endings

/-!
# Statements are no block tags

A fragment of code takes part in blocks by its shape alone, while it runs as statements only if the
grammar admits it.  No fragment does both: every shape of a block begins with a closing brace or
ends with an opening one.

## Main results

* `Stencil.Fragment.classify_eq_simple_or` — the shapes of blocks and their braces.
* `Stencil.Fragment.classify_of_statements` — a fragment that is read as statements is complete, and
  the tree of a program has it as one node.
-/

set_option relaxedAutoImplicit false
set_option autoImplicit false

namespace Stencil

open Script (BeginsWith EndsWith CommentFree Stmt Token)
open Text (allBlank trim trimStart trimEnd)

/-! ## Ends of a trimmed text -/

/-- The run of white space that a text begins with is white space. -/
lemma Text.allBlank_takeWhile (s : List Char) : allBlank (s.takeWhile Text.isBlank) = true :=
  List.all_eq_true.2 fun _ hmem => List.mem_takeWhile_imp hmem

/-- A text is its trimmed part between white space. -/
lemma Text.trim_split (s : List Char) :
    ∃ before behind, s = before ++ trim s ++ behind ∧ allBlank before = true ∧
      allBlank behind = true := by
  refine ⟨s.takeWhile isBlank, ((trimStart s).reverse.takeWhile isBlank).reverse, ?_,
    allBlank_takeWhile s, ?_⟩
  · have hend : trim s ++ ((trimStart s).reverse.takeWhile isBlank).reverse = trimStart s := by
      rw [trim, trimEnd, ← List.reverse_append, List.takeWhile_append_dropWhile,
        List.reverse_reverse]
    rw [List.append_assoc, hend, trimStart, List.takeWhile_append_dropWhile]
  · rw [allBlank, List.all_reverse]
    exact allBlank_takeWhile _

/-- The first character of a text other than white space is that of the trimmed text. -/
lemma Script.BeginsWith.of_trim {x : Char} {s : List Char} (h : BeginsWith x (trim s)) :
    BeginsWith x s := by
  obtain ⟨before, behind, hs, hbefore, -⟩ := Text.trim_split s
  obtain ⟨blanks, rest, htrim, hblank⟩ := h
  refine ⟨before ++ blanks, rest ++ behind, ?_, ?_⟩
  · rw [hs, htrim]
    simp
  · simp_all [allBlank]

/-- So is the last one. -/
lemma Script.EndsWith.of_trim {x : Char} {s : List Char} (h : EndsWith x (trim s)) :
    EndsWith x s := by
  obtain ⟨before, behind, hs, -, hbehind⟩ := Text.trim_split s
  obtain ⟨front, blanks, htrim, hblank⟩ := h
  refine ⟨before ++ front, blanks ++ behind, ?_, ?_⟩
  · rw [hs, htrim]
    simp
  · simp_all [allBlank]

/-- A text of one character ends with it. -/
lemma Script.EndsWith.of_eq {x : Char} {s : List Char} (h : s = [x]) : EndsWith x s :=
  ⟨[], [], h, rfl⟩

/-- A text ends as what it ends with does. -/
lemma Script.EndsWith.of_suffix {x : Char} {s t : List Char} (h : EndsWith x t)
    (hsuffix : t <:+ s) : EndsWith x s := by
  obtain ⟨front, rfl⟩ := hsuffix
  obtain ⟨inside, blanks, rfl, hblank⟩ := h
  exact ⟨front ++ inside, blanks, by simp, hblank⟩

namespace Fragment

/-! ## What the parts of a shape leave -/

/-- What is left behind a beginning is an end of the text. -/
lemma suffix_of_dropPrefix? {p s rest : List Char} (h : Text.dropPrefix? p s = some rest) :
    rest <:+ s := ⟨p, (Text.dropPrefix?_eq_some_iff.1 h).symm⟩

/-- So is what is left behind a character. -/
lemma suffix_of_afterChar? {c : Char} {s rest : List Char} (h : afterChar? c s = some rest) :
    rest <:+ s := by
  unfold afterChar? at h
  split at h
  next x behind htrim =>
    split at h
    · cases h
      exact (List.suffix_cons x rest).trans (htrim ▸ List.dropWhile_suffix _)
    · exact nomatch h
  · exact nomatch h

/-- So is what is left behind a character that may be missing. -/
lemma skipChar_suffix (c : Char) (s : List Char) : skipChar c s <:+ s := by
  unfold skipChar
  split
  · split
    · exact List.suffix_cons ..
    · exact List.suffix_rfl
  · exact List.suffix_rfl

/-- So is what is left behind white space. -/
lemma trimStart_suffix (s : List Char) : trimStart s <:+ s := List.dropWhile_suffix _

/-- So is what is left behind a name. -/
lemma suffix_of_name? {s word rest : List Char} (h : name? s = some (word, rest)) : rest <:+ s := by
  unfold name? at h
  split at h
  · split at h
    · cases h
      exact (List.dropWhile_suffix _).trans (List.suffix_cons ..)
    · exact nomatch h
  · exact nomatch h

/-! ## Shapes -/

/-- A text that opens a body ends with the brace. -/
lemma endsWith_of_beforeBody? {s inside : List Char} (h : beforeBody? s = some inside) :
    EndsWith '\x7b' s := by
  unfold beforeBody? at h
  split at h
  next rest hrev =>
    rw [List.reverse_eq_cons_iff] at hrev
    exact ⟨rest.reverse, [], hrev, rfl⟩
  · exact nomatch h

/-- So does a header with something in parentheses. -/
lemma endsWith_of_inParens? {keyword : String} {s inside : List Char}
    (h : inParens? keyword s = some inside) : EndsWith '\x7b' s := by
  unfold inParens? at h
  obtain ⟨behind, h, hbody⟩ := Option.bind_eq_some_iff.1 h
  obtain ⟨rest, hkeyword, hparen⟩ := Option.bind_eq_some_iff.1 h
  exact (endsWith_of_beforeBody? hbody).of_suffix
    ((suffix_of_afterChar? hparen).trans (suffix_of_dropPrefix? hkeyword))

/-- A callback's head ends with an opening brace, which is all that is left behind its names
and its arrow.

**Proof sketch.** Every reader that the head goes through leaves a suffix of what it was given.  So
what is left in the end is a suffix of the head, and it is the brace alone. -/
lemma endsWith_of_callback? {s : List Char} {names : String × Option String}
    (h : callback? s = some names) : EndsWith '\x7b' s := by
  unfold callback? at h
  split at h
  · exact nomatch h
  next item rest hname =>
    have hrest : rest <:+ s := (suffix_of_name? hname).trans
      ((trimStart_suffix _).trans (skipChar_suffix _ _))
    split at h
    next index behind hindex =>
      have hbehind : behind <:+ rest := by
        split at hindex
        next more htrim =>
          have hmore : more <:+ rest := (List.suffix_cons ..).trans (htrim ▸ trimStart_suffix rest)
          split at hindex
          next hname =>
            cases hindex
            exact (trimStart_suffix _).trans
              ((suffix_of_name? hname).trans ((trimStart_suffix _).trans hmore))
          · cases hindex
            exact htrim ▸ trimStart_suffix rest
        · cases hindex
          exact trimStart_suffix rest
      have hskip : trimStart (skipChar ')' behind) <:+ s :=
        (trimStart_suffix _).trans ((skipChar_suffix _ _).trans (hbehind.trans hrest))
      dsimp only at h
      split at h
      next more harrow =>
        split at h
        next hbrace =>
          have hmore : more <:+ '=' :: '>' :: more :=
            (List.suffix_cons ..).trans (List.suffix_cons ..)
          exact (EndsWith.of_eq hbrace).of_suffix
            ((trimStart_suffix _).trans (hmore.trans (harrow ▸ hskip)))
        · exact nomatch h
      · split at h
        next hbrace => exact (EndsWith.of_eq hbrace).of_suffix hskip
        · exact nomatch h

/-- So does the head of a callback. -/
lemma endsWith_of_callbackHead? {s : List Char} {names : String × Option String}
    (h : callbackHead? s = some names) : EndsWith '\x7b' s := by
  unfold callbackHead? at h
  dsimp only at h
  rw [← Option.or_eq_orElse] at h
  rcases Option.or_eq_some_iff.1 h with h | ⟨-, h⟩
  · obtain ⟨rest, hword, hcallback⟩ := Option.bind_eq_some_iff.1 h
    exact (endsWith_of_callback? hcallback).of_suffix ((trimStart_suffix _).trans
      ((suffix_of_dropPrefix? hword).trans (trimStart_suffix _)))
  · exact (endsWith_of_callback? h).of_suffix (trimStart_suffix _)

/-- So does a call that hands elements to a callback. -/
lemma endsWith_of_forEachAfter? {before s : List Char} {header : LoopHeader}
    (h : forEachAfter? before s = some header) : EndsWith '\x7b' s := by
  induction s generalizing before with
  | nil => exact nomatch h
  | cons c rest ih =>
    unfold forEachAfter? at h
    dsimp only at h
    split at h
    next item index hhere =>
      split at hhere
      · exact nomatch hhere
      · obtain ⟨behind, hprefix, hhead⟩ := Option.bind_eq_some_iff.1 hhere
        exact (endsWith_of_callbackHead? hhead).of_suffix (suffix_of_dropPrefix? hprefix)
    · exact (ih h).of_suffix (List.suffix_cons ..)

/-- So does the header of a loop over elements or keys. -/
lemma endsWith_of_iteration? {keyword : String} {s : List Char} {names : String × String}
    (h : iteration? keyword s = some names) : EndsWith '\x7b' s := by
  obtain ⟨inside, hinside, -⟩ := Option.bind_eq_some_iff.1 h
  exact endsWith_of_inParens? hinside

/-- So does the header of any loop. -/
lemma endsWith_of_loop? {s : List Char} {header : LoopHeader} (h : loop? s = some header) :
    EndsWith '\x7b' s := by
  unfold loop? at h
  obtain ⟨shape, hmem, hshape⟩ := List.exists_of_findSome?_eq_some h
  simp only [List.mem_cons, List.not_mem_nil, or_false] at hmem
  rcases hmem with rfl | rfl | rfl | rfl | rfl
  · obtain ⟨inside, hinside, -⟩ := Option.map_eq_some_iff.1 hshape
    exact endsWith_of_inParens? hinside
  · obtain ⟨names, hiteration, -⟩ := Option.map_eq_some_iff.1 hshape
    exact endsWith_of_iteration? hiteration
  · obtain ⟨names, hiteration, -⟩ := Option.map_eq_some_iff.1 hshape
    exact endsWith_of_iteration? hiteration
  · obtain ⟨inside, hinside, -⟩ := Option.bind_eq_some_iff.1 hshape
    exact endsWith_of_inParens? hinside
  · exact endsWith_of_forEachAfter? hshape

/-- A text that closes a body begins with the brace. -/
lemma beginsWith_of_isClose {s : List Char} (h : isClose s = true) : BeginsWith '\x7d' s := by
  unfold isClose at h
  split at h
  next rest => exact ⟨[], rest, rfl, rfl⟩
  · exact nomatch h

/-- A text that goes over to the last alternative ends with an opening brace. -/
lemma endsWith_of_isElse {s : List Char} (h : isElse s = true) : EndsWith '\x7b' s := by
  unfold isElse at h
  split at h
  next rest hrest =>
    obtain ⟨behind, hclose, helse⟩ := Option.bind_eq_some_iff.1 hrest
    have hbrace : trimStart rest = ['\x7b'] := of_decide_eq_true h
    exact (EndsWith.of_eq hbrace).of_suffix ((trimStart_suffix _).trans
      ((suffix_of_dropPrefix? helse).trans
        ((trimStart_suffix _).trans (suffix_of_afterChar? hclose))))
  · exact nomatch h

/-- A text that goes over to another condition begins with a closing brace. -/
lemma beginsWith_of_elseIf? {s inside : List Char} (h : elseIf? s = some inside) :
    BeginsWith '\x7d' s := by
  unfold elseIf? at h
  split at h
  next rest => exact ⟨[], rest, rfl, rfl⟩
  · exact nomatch h

/-- **Every shape of a block has a brace at one end.** -/
theorem classify_eq_simple_or (code : String) :
    classify code = .simple ∨ BeginsWith '\x7d' code.toList ∨ EndsWith '\x7b' code.toList := by
  unfold classify
  dsimp only
  split
  next h => exact .inr (.inl (beginsWith_of_isClose h).of_trim)
  split
  next h => exact .inr (.inr (endsWith_of_isElse h).of_trim)
  split
  next h => exact .inr (.inl (beginsWith_of_elseIf? h).of_trim)
  split
  next h => exact .inr (.inr (endsWith_of_inParens? h).of_trim)
  split
  next h => exact .inr (.inr (endsWith_of_loop? h).of_trim)
  · exact .inl rfl

/-- **A complete statement is never taken for a block tag.**  A fragment that is read as statements
and has no comment is complete by its shape, so the tree has it as one node, whatever is open.

**Proof sketch.** A shape of a block begins with a closing brace, which no statement does, or ends
with an opening one.  Without comments the last token is that brace, and no reader gets past it. -/
theorem classify_of_statements {code : String} (hfree : CommentFree code.toList) {body : List Stmt}
    (hread : Stmt.listOfText code = .ok body) :
    classify code = .simple ∧
      ∀ nodes levels rest, buildBlock classify nodes levels (.exec code :: rest) =
        buildBlock classify (.exec code :: nodes) levels rest := by
  have hsimple : classify code = .simple := by
    rcases classify_eq_simple_or code with hsimple | hbegin | hend
    · exact hsimple
    · exact absurd hread (Stmt.listOfText_of_beginsWith hbegin body)
    · exact absurd hread (Stmt.listOfText_of_endsWith hfree hend body)
  exact ⟨hsimple, fun nodes levels rest => buildBlock_simple nodes levels rest hsimple⟩

/-- A condition that closes its own block has the braces of a shape, but not at its ends. -/
theorem classify_of_statements_branch :
    CommentFree "if(a)\x7bb\x7d".toList ∧
      Stmt.listOfText "if(a)\x7bb\x7d" =
        .ok [.branch (.name "a") (.block [.expr (.name "b")]) .empty] ∧
      classify "if(a)\x7bb\x7d" = .simple ∧
      ∀ nodes levels rest, buildBlock classify nodes levels (.exec "if(a)\x7bb\x7d" :: rest) =
        buildBlock classify (.exec "if(a)\x7bb\x7d" :: nodes) levels rest := by
  have htokens : Token.ofChars "if(a)\x7bb\x7d".toList =
      .ok [.word "if", .symbol .openParen, .word "a", .symbol .closeParen, .symbol .openBrace,
        .word "b", .symbol .closeBrace] :=
    open Script.Token in
    ofChars_cons_ok (some (.word "if")) (by rfl) <|
    ofChars_cons_ok (some (.symbol .openParen)) (by rfl) <|
    ofChars_cons_ok (some (.word "a")) (by rfl) <|
    ofChars_cons_ok (some (.symbol .closeParen)) (by rfl) <|
    ofChars_cons_ok (some (.symbol .openBrace)) (by rfl) <|
    ofChars_cons_ok (some (.word "b")) (by rfl) <|
    ofChars_cons_ok (some (.symbol .closeBrace)) (by rfl) ofChars_nil
  have hread : Stmt.listOfText "if(a)\x7bb\x7d" =
      .ok [.branch (.name "a") (.block [.expr (.name "b")]) .empty] := by
    rw [Stmt.listOfText, htokens]
    rfl
  have hfree : CommentFree "if(a)\x7bb\x7d".toList := by
    refine .step (by rfl) ?_ <| .step (by rfl) ?_ <| .step (by rfl) ?_ <| .step (by rfl) ?_ <|
      .step (by rfl) ?_ <| .step (by rfl) ?_ <| .step (by rfl) ?_ .nil
    all_goals decide
  exact ⟨hfree, hread, classify_of_statements hfree hread⟩

end Fragment

end Stencil
