import Mathlib.Tactic.FinCases
import Stencil.Proofs.Template.Lines
import Stencil.Proofs.Template.Swallowing

/-!
# Literals of a listing

A listing writes text as string literals.  They are read back as the texts that they were written
for, and none of them runs over the end of its line.

## Main results

* `Stencil.Text.escapeLiteral_eq_replaceAll` — escaping is four replacements, one after the other.
* `Stencil.Script.Lexeme.readString_literal` — an escaped text is read up to the quote behind it.
* `Stencil.Program.literals_read_back` — a literal is one token, and stays on its line.

## Design

The four replacements cannot be taken in any order: a backslash that is put in front of a quote must
not be doubled.  Escaping is therefore defined character by character, which has no order, and the
replacements are shown to come to the same.
-/

set_option relaxedAutoImplicit false
set_option autoImplicit false

namespace Stencil

open Script (Token Lexes)

/-! ## Escaping by replacements -/

namespace Text

/-- Every occurrence of a single character is replaced on its own. -/
lemma replaceAll_singleton (c : Char) (r s : List Char) :
    replaceAll [c] r s = s.flatMap fun x => if x = c then r else [x] := by
  unfold replaceAll
  induction s with
  | nil => rfl
  | cons x s ih =>
    rw [replaceFrom, List.flatMap_cons]
    by_cases h : x = c
    · subst h
      simp [startsWith, dropPrefix?, ih]
    · simp [startsWith, dropPrefix?, h, Ne.symm h, ih]

/-- The characters that are written as escapes. -/
def escapedChars : List Char := ['\\', '\n', '\r', '"']

/-- Every other character is written as it is. -/
lemma literalChar_of_notMem {c : Char} (h : c ∉ escapedChars) : literalChar c = [c] := by
  simp_all [escapedChars, literalChar]

/-- **Escaping is four replacements,** one after the other: of backslashes, of line feeds, of
carriage returns and of quotes. -/
theorem escapeLiteral_eq_replaceAll (s : String) :
    (escapeLiteral s).toList =
      replaceAll ['"'] ['\\', '"'] (replaceAll ['\r'] ['\\', 'r']
        (replaceAll ['\n'] ['\\', 'n'] (replaceAll ['\\'] ['\\', '\\'] s.toList))) := by
  simp only [escapeLiteral, String.toList_ofList, replaceAll_singleton, List.flatMap_assoc]
  congr 1
  funext c
  by_cases hc : c ∈ escapedChars
  · fin_cases hc <;> rfl
  · rw [literalChar_of_notMem hc]
    simp_all [escapedChars]

/-- The code of a character has no line break. -/
lemma notMem_literalChar {x : Char} (hx : x = '\n' ∨ x = '\r') (c : Char) : x ∉ literalChar c := by
  by_cases hc : c ∈ escapedChars
  · rcases hx with rfl | rfl <;> fin_cases hc <;> decide
  · rw [literalChar_of_notMem hc, List.mem_singleton]
    rintro rfl
    rcases hx with rfl | rfl <;> exact hc (by decide)

/-- Escaped text has no line break. -/
lemma notMem_escapeLiteral {x : Char} (hx : x = '\n' ∨ x = '\r') (s : String) :
    x ∉ (escapeLiteral s).toList := by
  rw [escapeLiteral, String.toList_ofList, List.mem_flatMap]
  rintro ⟨c, -, hc⟩
  exact notMem_literalChar hx c hc

end Text

/-! ## Reading literals -/

namespace Script

/-- The code of a character is read as the character, whatever follows. -/
lemma Lexeme.readString_literalChar (c : Char) (more : List Char) :
    readString '"' (Text.literalChar c ++ more) = prepend [c] (readString '"' more) := by
  by_cases hc : c ∈ Text.escapedChars
  · fin_cases hc <;> rfl
  · rw [Text.literalChar_of_notMem hc, List.singleton_append, readString.eq_def]
    simp only [Text.escapedChars, List.mem_cons, List.not_mem_nil, or_false, not_or] at hc
    split <;> simp_all

/-- **An escaped text is read up to the quote behind it.** -/
theorem Lexeme.readString_literal (s : String) (more : List Char) :
    readString '"' ((Text.escapeLiteral s).toList ++ '"' :: more) = .ok (s.toList, more) := by
  rw [Text.escapeLiteral, String.toList_ofList]
  induction s.toList with
  | nil => rfl
  | cons c s ih =>
    rw [List.flatMap_cons, List.append_assoc, readString_literalChar, ih]
    rfl

/-- A literal is one token. -/
lemma lexes_literal (s : String) (more : List Char) :
    Lexes ('"' :: ((Text.escapeLiteral s).toList ++ '"' :: more)) [.text s] more := by
  have hnext : Lexeme.next '"' ((Text.escapeLiteral s).toList ++ '"' :: more) =
      .ok (some (.text (String.ofList s.toList)), more) := by
    rw [Lexeme.next, Lexeme.readString_literal]
    rfl
  rw [String.ofList_toList] at hnext
  exact .step _ hnext .done

end Script

/-! ## Lines of a listing -/

namespace Text

/-- A text of whole lines: what follows it begins a line. -/
def WholeLines (w : List Char) : Prop := ∃ ls, ∀ t, lines (w ++ t) = ls ++ lines t

namespace WholeLines

/-- The empty text is one of whole lines. -/
lemma nil : WholeLines [] := ⟨[], fun _ => rfl⟩

/-- Texts of whole lines are put one behind the other. -/
lemma append {v w : List Char} (hv : WholeLines v) (hw : WholeLines w) : WholeLines (v ++ w) := by
  obtain ⟨ls, hls⟩ := hv
  obtain ⟨ms, hms⟩ := hw
  exact ⟨ls ++ ms, fun t => by rw [List.append_assoc, hls, hms, List.append_assoc]⟩

/-- A line break ends the last line. -/
lemma concat_newline (s : List Char) : WholeLines (s ++ ['\n']) :=
  ⟨lines s, fun t => by rw [List.append_assoc, List.singleton_append, lines_append_newline]⟩

/-- So are any number of them. -/
lemma join {ss : List String} (h : ∀ s ∈ ss, WholeLines s.toList) :
    WholeLines (String.join ss).toList := by
  rw [String.toList_join]
  induction ss with
  | nil => exact nil
  | cons s ss ih =>
    rw [List.forall_mem_cons] at h
    exact h.1.append (ih h.2)

end WholeLines

end Text

namespace Program

open Text (lines WholeLines escapeLiteral replaceAll)

/-- An entry of the listing is a text of whole lines. -/
lemma wholeLines_entry (s : String) : WholeLines (entry s).toList := by
  rw [entry, String.toList_append]
  exact .concat_newline _

/-- A listing is made of whole lines.

**Proof sketch.** Induction on the program.  Each instruction is listed as whole lines. -/
lemma wholeLines_listFrom (scopes : List Nat) (p : Program) :
    WholeLines (listFrom scopes p).toList := by
  induction p generalizing scopes with
  | nil => exact .nil
  | cons i rest ih =>
    cases i with
    | step s =>
      rw [listFrom, String.toList_append]
      refine .append ?_ (ih _)
      cases s <;> exact wholeLines_entry _
    | exec fragment =>
      rw [listFrom, String.toList_append]
      exact .append (wholeLines_entry _) (ih _)
    | enterScope scope =>
      rw [listFrom, listEnter, String.toList_append, String.toList_append]
      refine .append (.append (wholeLines_entry _) (.join fun s hs => ?_)) (ih _)
      obtain ⟨param, -, rfl⟩ := List.mem_map.1 hs
      have hsplit : " || \x7b\x7d) \x7b\n".toList = " || \x7b\x7d) \x7b".toList ++ ['\n'] := by
        decide
      rw [String.toList_append, hsplit, ← List.append_assoc]
      exact .concat_newline _
    | exitScope =>
      rw [listFrom, listExit, String.toList_append, String.toList_append]
      refine .append (.append (.join fun s hs => ?_) (wholeLines_entry _)) (ih _)
      rw [List.eq_of_mem_replicate hs]
      exact .concat_newline "  \x7d".toList

/-- The line of a listing that puts a text out. -/
def literalLine (s : String) : String := "    ; __append(\"" ++ escapeLiteral s ++ "\")"

/-- The line of a literal in its parts. -/
lemma toList_literalLine (s : String) :
    (literalLine s).toList =
      "    ; __append(".toList ++ '"' :: ((escapeLiteral s).toList ++ '"' :: [')']) := by
  have hopen : "    ; __append(\"".toList = "    ; __append(".toList ++ ['"'] := by decide
  have hclose : "\")".toList = ['"', ')'] := by decide
  -- not by the equation of the definition, for which the text would be evaluated
  delta literalLine
  rw [String.toList_append, String.toList_append, hopen, hclose, List.append_assoc,
    List.append_assoc, List.singleton_append]

/-- A step that puts out text is listed as the line of a literal. -/
lemma listStep_append (s : String) : listStep (.append s) = literalLine s ++ "\n" := by
  have hopen : "    ; __append(\"" = "    ; " ++ "__append(\"" := by decide
  delta literalLine
  rw [listStep, entry, hopen]
  simp only [String.append_assoc]

/-- A text that is put out stays on one line. -/
lemma notMem_literalLine {x : Char} (hx : x = '\n' ∨ x = '\r') (s : String) :
    x ∉ (literalLine s).toList := by
  have hescape := Text.notMem_escapeLiteral hx s
  rw [toList_literalLine, List.mem_append, List.mem_cons, List.mem_append]
  rcases hx with rfl | rfl <;> simpa using hescape

/-- An instruction that puts a text out has a line of its own. -/
lemma literalLine_mem_lines (s : String) (front behind : Program) :
    (literalLine s).toList ∈ lines (listing (front ++ .append s :: behind)).toList := by
  obtain ⟨before, hbefore⟩ := wholeLines_listFrom [] front
  have hline := Text.lines_of_notMem (notMem_literalLine (.inl rfl) s)
  rw [listing, listFrom_append, String.toList_append, hbefore, listFrom, listStep_append,
    String.toList_append, String.toList_append, List.append_assoc]
  refine List.mem_append_right _ ?_
  show _ ∈ lines ((literalLine s).toList ++ '\n' :: _)
  rw [Text.lines_append_newline, hline]
  exact List.mem_cons_self

/-- **Literals are read back.**  A text is escaped by four replacements, one after the other.
Between quotes the escaped text is one token, the text itself.  It holds no line break of either
kind.  So in the listing of any program the instruction that puts the text out is a line by itself,
and this line is read as a call with that token.

**Proof sketch.** The code of each character is read as the character
(`Lexeme.readString_literalChar`), and has no line break (`Text.notMem_literalChar`).  A listing is
made of whole lines (`wholeLines_listFrom`). -/
theorem literals_read_back (s : String) :
    (escapeLiteral s).toList =
      replaceAll ['"'] ['\\', '"'] (replaceAll ['\r'] ['\\', 'r']
        (replaceAll ['\n'] ['\\', 'n'] (replaceAll ['\\'] ['\\', '\\'] s.toList))) ∧
    Token.ofChars ("\"" ++ escapeLiteral s ++ "\"").toList = .ok [.text s] ∧
    '\n' ∉ (escapeLiteral s).toList ∧ '\r' ∉ (escapeLiteral s).toList ∧
    (∀ front behind : Program,
      (literalLine s).toList ∈ lines (listing (front ++ .append s :: behind)).toList) ∧
    Token.ofChars (literalLine s).toList =
      .ok [.symbol .semicolon, .word "__append", .symbol .openParen, .text s,
        .symbol .closeParen] := by
  refine ⟨Text.escapeLiteral_eq_replaceAll s, ?_, Text.notMem_escapeLiteral (.inl rfl) s,
    Text.notMem_escapeLiteral (.inr rfl) s, literalLine_mem_lines s, ?_⟩
  · have hquoted : ("\"" ++ escapeLiteral s ++ "\"").toList =
        '"' :: ((escapeLiteral s).toList ++ ['"']) := by
      rw [String.toList_append, String.toList_append]
      rfl
    rw [hquoted, (Script.lexes_literal s []).ofChars_eq, Token.ofChars_nil]
    rfl
  · have hclose : Lexes [')'] [.symbol .closeParen] [] :=
      .step (some (.symbol .closeParen)) rfl .done
    rw [toList_literalLine,
      ((lexes_append _).trans ((Script.lexes_literal s _).trans hclose)).ofChars_eq,
      Token.ofChars_nil]
    rfl

end Program

end Stencil
