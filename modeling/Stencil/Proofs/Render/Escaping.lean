import Stencil.Proofs.Render.Record

/-!
# Output without foreign markup

A template that puts out every value escaped puts out no markup but its own: what comes from the
data is free of the characters that markup is made of.

## Main definitions

* `Stencil.Text.Inert` — a text that is no markup.
* `Stencil.Program.Weaves` — a text of parts that are texts of a program or inert.

## Main results

* `Stencil.Text.inert_escapeMarkup` — an escaped text is inert.
* `Stencil.Artifact.render_weaves` — the output and the blocks of a template that puts out no value
  unescaped are woven of texts of its program and inert ones.
-/

set_option relaxedAutoImplicit false
set_option autoImplicit false

namespace Stencil

open Script

/-! ## Inert texts -/

namespace Text

/-- The references that stand for characters of markup. -/
def references : List String := ["&amp;", "&lt;", "&gt;", "&#34;", "&#39;"]

/-- **A text that is no markup:** it has no angle brackets and no quotes, and each of its ampersands
begins a reference. -/
def Inert (s : String) : Prop :=
  (∀ c ∈ s.toList, c ∉ ['<', '>', '"', '\'']) ∧
    ∀ before behind, s.toList = before ++ '&' :: behind →
      ∃ reference ∈ references, reference.toList <+: '&' :: behind

/-- A character is written as a reference, or it is none of markup and stays as it is. -/
lemma markupChar_cases (c : Char) :
    (∃ reference ∈ references, markupChar c = reference.toList) ∨
      (markupChar c = [c] ∧ c ≠ '&' ∧ c ∉ ['<', '>', '"', '\'']) := by
  unfold markupChar references
  split_ifs <;> simp_all

/-- A reference has no angle brackets and no quotes. -/
lemma notMem_of_reference : ∀ reference ∈ references, ∀ c ∈ reference.toList,
    c ∉ ['<', '>', '"', '\''] := by
  simp [references]

/-- The ampersand of a reference is its first character. -/
lemma eq_nil_of_reference : ∀ reference ∈ references, ∀ {before behind : List Char},
    reference.toList = before ++ '&' :: behind → before = [] := by
  have htail : ∀ reference ∈ references, '&' ∉ reference.toList.tail := by simp [references]
  intro reference hreference before behind h
  cases before with
  | nil => rfl
  | cons c before =>
    have h := htail reference hreference
    simp_all

/-- Each ampersand of an escaped text begins a reference.

**Proof sketch.** Induction on the text.  An ampersand stands in what is written for the first
character, which is then a reference that begins there, or in what is written for the rest. -/
lemma reference_prefix_of_ampersand (cs before behind : List Char)
    (h : cs.flatMap markupChar = before ++ '&' :: behind) :
    ∃ reference ∈ references, reference.toList <+: '&' :: behind := by
  induction cs generalizing before with
  | nil => simp at h
  | cons c cs ih =>
    rw [List.flatMap_cons] at h
    rcases List.append_eq_append_iff.1 h with ⟨rest, hbefore, hrest⟩ | ⟨within, hwithin, hrest⟩
    · exact ih rest hrest
    · cases within with
      | nil => exact ih [] hrest.symm
      | cons a within =>
        obtain ⟨rfl, hbehind⟩ := List.cons_eq_cons.1 hrest
        rcases markupChar_cases c with ⟨reference, hreference, hc⟩ | ⟨hc, hplain, -⟩
        · obtain rfl := eq_nil_of_reference reference hreference (hc ▸ hwithin)
          refine ⟨reference, hreference, ?_⟩
          rw [← hc, hwithin, hbehind]
          exact List.prefix_append _ _
        · have hmem : '&' ∈ before ++ '&' :: within := List.mem_append_right _ List.mem_cons_self
          rw [← hwithin, hc] at hmem
          exact absurd (List.mem_singleton.1 hmem).symm hplain

/-- **An escaped text is inert.** -/
theorem inert_escapeMarkup (s : String) : Inert (escapeMarkup s) := by
  unfold Inert escapeMarkup
  rw [String.toList_ofList]
  refine ⟨fun c hc => ?_, reference_prefix_of_ampersand _⟩
  obtain ⟨d, -, hcd⟩ := List.mem_flatMap.1 hc
  rcases markupChar_cases d with ⟨reference, hreference, hd⟩ | ⟨hd, -, hplain⟩
  · exact notMem_of_reference reference hreference c (hd ▸ hcd)
  · obtain rfl : c = d := List.mem_singleton.1 (hd ▸ hcd)
    exact hplain

end Text

/-! ## Woven texts -/

namespace Program

variable {program : Program} {s t : String}

/-- **A text of parts that are texts of a program or inert.** -/
def Weaves (program : Program) (s : String) : Prop :=
  ∃ parts : List String, s = String.join parts ∧
    ∀ part ∈ parts, .append part ∈ program ∨ Text.Inert part

namespace Weaves

/-- Nothing. -/
lemma empty : Weaves program "" := ⟨[], rfl, by simp⟩

/-- A text of the program, or an inert one. -/
lemma single (h : .append s ∈ program ∨ Text.Inert s) : Weaves program s :=
  ⟨[s], by simp [String.join], by simpa using h⟩

/-- Two texts one after the other. -/
lemma append (hs : Weaves program s) (ht : Weaves program t) : Weaves program (s ++ t) := by
  obtain ⟨parts, rfl, hparts⟩ := hs
  obtain ⟨parts', rfl, hparts'⟩ := ht
  refine ⟨parts ++ parts', String.join_append.symm, fun part hpart => ?_⟩
  exact (List.mem_append.1 hpart).elim (hparts part) (hparts' part)

end Weaves

end Program

/-! ## Runs -/

/-- A rendering in which everything that has been put out is woven: the output, the output that
is set aside, and the blocks. -/
structure Rendering.Woven (program : Program) (r : Rendering) : Prop where
  /-- The output. -/
  output : program.Weaves r.output
  /-- The output that is set aside. -/
  main : ∀ {main params}, r.capture = some (main, params) → program.Weaves main
  /-- The blocks. -/
  blocks : ∀ block ∈ r.blocks, program.Weaves block.html

namespace Rendering.Woven

variable {program : Program} {r q : Rendering}

/-- Bindings and places do not matter. -/
lemma of_same (h : r.Woven program) (hsame : r.SameOutput q) : q.Woven program := by
  obtain ⟨_, _, _, rfl⟩ := hsame
  exact ⟨h.output, h.main, h.blocks⟩

end Rendering.Woven

namespace Renderer

variable {n : Renderer} {program : Program}

section

variable (hescape : n.escape = Text.escapeMarkup) (hraw : ∀ expr, .appendRaw expr ∉ program)

include hescape hraw

/-- What a step of the program puts out is woven. -/
lemma weaves_text {v : Visit} (hv : .step v.step ∈ program) : program.Weaves (n.text v) := by
  obtain ⟨s, r⟩ := v
  cases s with
  | append text => exact .single (.inl hv)
  | appendEscaped expr =>
    rw [text, shown]
    split
    · rw [hescape]
      exact .single (.inr (Text.inert_escapeMarkup _))
    · exact .empty
  | appendRaw expr => exact absurd hv (hraw expr)
  | _ => exact .empty

/-- What has been put out stays woven with each step of the program. -/
theorem woven_of_effect {v : Visit} (hv : .step v.step ∈ program) (h : v.before.Woven program)
    {q : Rendering} (heffect : n.Effect v q) : q.Woven program := by
  cases heffect with
  | writes _ same =>
    have htext := weaves_text hescape hraw hv
    exact .of_same (r := { v.before with output := v.before.output ++ n.text v })
      ⟨h.output.append htext, h.main, h.blocks⟩ same
  | begins _ _ _ same =>
    refine .of_same (r := { v.before with output := "", capture := some (v.before.output, _) })
      ⟨.empty, ?_, h.blocks⟩ same
    rintro main params ⟨⟩
    exact h.output
  | ends _ inside same =>
    refine .of_same (r := { v.before with output := _, capture := none, blocks := _ })
      ⟨h.main inside, nofun, fun block hblock => ?_⟩ same
    rcases List.mem_append.1 hblock with hblock | hblock
    · exact h.blocks block hblock
    · rw [List.mem_singleton.1 hblock]
      exact h.output

/-- Where the record of steps of a program leads, everything that has been put out is woven. -/
theorem woven_of_followed {visits : List Visit} {r : Rendering}
    (h : n.Followed (.step · ∈ program) visits r) : r.Woven program := by
  induction h with
  | start output capture blocks =>
    exact ⟨output ▸ .empty, fun h => by simp [capture] at h, fun b hb => by simp [blocks] at hb⟩
  | visit _ step run ih => exact woven_of_effect hescape hraw step ih (effect_of_runStep run)
  | aside _ same ih => exact ih.of_same same

end

end Renderer

/-! ## Artifacts -/

namespace Artifact

/-- **Data puts out no markup** where every value is escaped.  If a program has no instruction that
puts out a value as it is, and rendering succeeds, then the output and each block are parts put one
after the other, each of which is a text of the program or inert.

**Proof sketch.** The run has a record of steps of the program, and what has been put out stays
woven with each of them: with what is appended, with the output that is set aside and taken back,
and with the blocks that end. -/
theorem render_weaves {a : Artifact} {e : Evaluator} {fuel : Nat} {data : Value} {result : Rendered}
    (hescape : a.options.escape = Text.escapeMarkup) (hraw : ∀ expr, .appendRaw expr ∉ a.program)
    (h : a.render e fuel data = .ok result) :
    a.program.Weaves result.output ∧ ∀ block ∈ result.blocks, a.program.Weaves block.html := by
  have hrender := (a.recorded_spec e fuel data).1
  obtain ⟨hrun, -, rfl⟩ := rendered_eq_ok (hrender.symm.trans h)
  have hwoven := (a.renderer e fuel).woven_of_followed hescape hraw (followed_recorded hrun)
  exact ⟨hwoven.output, hwoven.blocks⟩

/-- A template that puts out a value of its data twice, once into a block. -/
theorem render_weaves_block :
    let a : Artifact :=
      { program := [.append "<p>", .appendEscaped "d", .beginCapture "d", .appendEscaped "d",
          .endCapture, .append "</p>"]
        options := {}
        origin := ⟨"ejs", "<p><%= d %><% includeAt d %><%= d %><% endAt %></p>"⟩
        dependencies := []
        assets := {} }
    let data : Value := .object [("d", .text "<b>")]
    let result : Rendered := ⟨"<p>&lt;b&gt;</p>", [⟨"&lt;b&gt;", .text "<b>"⟩]⟩
    a.render (.script []) 0 data = .ok result ∧ a.program.Weaves result.output ∧
      ∀ block ∈ result.blocks, a.program.Weaves block.html := by
  intro a data result
  have hread : Expr.ofText "d" = .ok (.name "d") := by
    have htokens : Token.ofChars "d".toList = .ok [.word "d"] :=
      Token.ofChars_cons_ok (some (.word "d")) (by rfl) Token.ofChars_nil
    rw [Expr.ofText, htokens]
    rfl
  have hclassify : (Evaluator.script []).classify = Fragment.classify := rfl
  have hblock : Block.ofProgram Fragment.classify a.program = .ok
      (.ofReversed [.step (.append "</p>"), .step .endCapture, .step (.appendEscaped "d"),
        .step (.beginCapture "d"), .step (.appendEscaped "d"), .step (.append "<p>")]) :=
    Block.ofProgram_eq_ok_iff.2 rfl
  have hrender : a.render (.script []) 0 data = .ok result := by
    rw [Artifact.render_eq, hclassify, hblock]
    simp only [Block.ofReversed, List.foldl, Renderer.runBlock, Renderer.runNode,
      Renderer.runStep, Renderer.evaluate, Evaluator.script_evaluate [] hread]
    rfl
  exact ⟨hrender, render_weaves rfl (by simp [a]) hrender⟩

end Artifact

end Stencil
