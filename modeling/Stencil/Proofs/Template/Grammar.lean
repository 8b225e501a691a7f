import Stencil.Proofs.Template.Directive

/-!
# The grammar of directives

Which contents of a tag are directives, said by the texts that spell them and not by the reader that
recognises them.  A content spells at most one directive, in one of six forms, so that it does not
matter in which order the forms are tried.

## Main definitions

* `Stencil.Directive.GivesParams` — the texts that give parameters behind a target.
* `Stencil.Directive.Spells` — the contents that spell a directive.
* `Stencil.Directive.Form` — the six forms, each with its keyword and its reader.

## Main results

* `Stencil.Directive.Form.read?_eq_some_iff` — a reader accepts the contents of its form alone.
* `Stencil.Directive.Form.eq_of_isSome` — no content is accepted by two readers.
* `Stencil.Directive.parse?_grammar` — directives are recognised exactly as the grammar has it, and
  in any order of the forms.

## Design

The keyword of a directive is the first word of the content, also where one keyword begins with
another: this alone tells the forms apart.
-/

set_option relaxedAutoImplicit false
set_option autoImplicit false

namespace Stencil.Directive

variable {word : String} {s rest gap target behind : List Char} {params : Option String}
  {d d' : Directive}

/-! ## The grammar -/

/-- **What gives parameters behind a target:** nothing, or white space and a text that is shown
without the white space around it; there are no parameters if nothing is left of it. -/
inductive GivesParams : List Char → Option String → Prop
  /-- Nothing stands behind the target. -/
  | nothing : GivesParams [] none
  /-- Nothing but white space stands there. -/
  | blank {gap rest : List Char} : Text.allBlank gap = true → gap ≠ [] → Text.trim rest = [] →
    GivesParams (gap ++ rest) none
  /-- Parameters stand behind white space. -/
  | given {gap rest : List Char} : Text.allBlank gap = true → gap ≠ [] → Text.trim rest ≠ [] →
    GivesParams (gap ++ rest) (some (String.ofList (Text.trim rest)))

/-- **The contents that spell a directive.** -/
inductive Spells (s : List Char) : Directive → Prop
  /-- `include`, a path, and parameters. -/
  | includeFile {path behind : List Char} {params : Option String} :
    Names "include" path behind s → GivesParams behind params →
    Spells s (.includeFile (String.ofList path) params)
  /-- `includeModule`, a name, and parameters. -/
  | includeComponent {name behind : List Char} {params : Option String} :
    Names "includeModule" name behind s → GivesParams behind params →
    Spells s (.includeComponent (String.ofList name) params)
  /-- `includeJs` and a reference, whatever follows. -/
  | script {reference behind : List Char} :
    Names "includeJs" reference behind s → Spells s (.script (String.ofList reference))
  /-- `includeCss` and a reference, whatever follows. -/
  | style {reference behind : List Char} :
    Names "includeCss" reference behind s → Spells s (.style (String.ofList reference))
  /-- `includeAt`, white space, and parameters that are taken without line breaks and tabs. -/
  | beginCapture {gap rest : List Char} :
    Leads "includeAt" (gap ++ rest) s → Text.allBlank gap = true → gap ≠ [] →
    Spells s (.beginCapture (String.ofList (Text.trim
      (rest.filter fun c => c ≠ '\r' && c ≠ '\n' && c ≠ '\t'))))
  /-- `endAt` alone. -/
  | endCapture {gap : List Char} :
    Leads "endAt" gap s → Text.allBlank gap = true → Spells s .endCapture

/-! ## Parts of the reader -/

/-- Leading white space is not seen in a trimmed text. -/
lemma trim_append_of_allBlank (h : Text.allBlank gap = true) (rest : List Char) :
    Text.trim (gap ++ rest) = Text.trim rest := by
  rw [Text.trim, Text.trimStart, List.dropWhile_append_of_pos (List.all_eq_true.1 h)]
  rfl

/-- The parameters behind a target are those that the text there gives. -/
lemma givesParams_iff (h : ∀ c ∈ behind.head?, Text.isBlank c = true) :
    GivesParams behind params ↔ params? behind = params := by
  constructor
  · rintro (- | ⟨hgap, -, hrest⟩ | ⟨hgap, -, hrest⟩)
    · rfl
    · simp [params?, trim_append_of_allBlank hgap, hrest]
    · simp [params?, trim_append_of_allBlank hgap, hrest]
  · rintro rfl
    cases behind with
    | nil => exact .nothing
    | cons c rest =>
      have hgap : Text.allBlank [c] = true := by simp [Text.allBlank, h c rfl]
      have htrim : Text.trim (c :: rest) = Text.trim rest := trim_append_of_allBlank hgap rest
      by_cases hrest : Text.trim rest = []
      · rw [params?, htrim, hrest]
        exact .blank hgap (List.cons_ne_nil _ _) hrest
      · rw [params?, htrim, if_neg (by simpa using hrest)]
        exact .given hgap (List.cons_ne_nil _ _) hrest

/-- Leading white space is not seen in the parameters of an extraction. -/
lemma captureParams_append (h : Text.allBlank gap = true) (rest : List Char) :
    captureParams (gap ++ rest) = captureParams rest := by
  have hfilter : Text.allBlank (gap.filter fun c => c ≠ '\r' && c ≠ '\n' && c ≠ '\t') = true :=
    List.all_eq_true.2 fun c hc => List.all_eq_true.1 h c (List.mem_of_mem_filter hc)
  rw [captureParams, List.filter_append, trim_append_of_allBlank hfilter]
  rfl

/-- White space is found where a text begins with some, however much of it is meant. -/
lemma behindBlank?_append (h : Text.allBlank gap = true) (hne : gap ≠ []) (rest : List Char) :
    behindBlank? (gap ++ rest) = some (Text.trimStart rest) := by
  obtain ⟨c, more, rfl⟩ := List.exists_cons_of_ne_nil hne
  have hall := List.all_eq_true.1 h
  rw [behindBlank?_eq, Text.trimStart, List.dropWhile_append_of_pos hall]
  simp [hall c (by simp), Text.trimStart]

/-- What is behind white space stands in the text behind some white space. -/
lemma exists_of_behindBlank? (h : behindBlank? s = some rest) :
    ∃ gap, s = gap ++ rest ∧ Text.allBlank gap = true ∧ gap ≠ [] := by
  unfold behindBlank? at h
  split at h
  · cases h
  next hgap =>
    cases h
    exact ⟨s.takeWhile Text.isBlank, by rw [Text.trimStart, List.takeWhile_append_dropWhile],
      List.all_eq_true.2 fun _ hc => List.mem_takeWhile_imp hc, by simpa using hgap⟩

/-! ## The six readers -/

/-- **A form of directives.** -/
inductive Form where
  /-- An include of a template. -/
  | includeFile
  /-- An include of a component. -/
  | includeComponent
  /-- A script. -/
  | script
  /-- A style sheet. -/
  | style
  /-- The beginning of an extraction. -/
  | beginCapture
  /-- The end of an extraction. -/
  | endCapture
  deriving DecidableEq, Repr

/-- The form of a directive. -/
def form : Directive → Form
  | .includeFile _ _ => .includeFile
  | .includeComponent _ _ => .includeComponent
  | .script _ => .script
  | .style _ => .style
  | .beginCapture _ => .beginCapture
  | .endCapture => .endCapture

namespace Form

variable {f g : Form}

/-- The forms in the order in which they are tried. -/
def all : List Form := [includeFile, includeComponent, script, style, beginCapture, endCapture]

/-- The keyword of a form. -/
def keyword : Form → String
  | includeFile => "include"
  | includeComponent => "includeModule"
  | script => "includeJs"
  | style => "includeCss"
  | beginCapture => "includeAt"
  | endCapture => "endAt"

/-- The directive of one form that a content is, if it is one. -/
def read? : Form → List Char → Option Directive
  | includeFile => withParams? "include" .includeFile
  | includeComponent => withParams? "includeModule" .includeComponent
  | script => withReference? "includeJs" .script
  | style => withReference? "includeCss" .style
  | beginCapture => parseBegin?
  | endCapture => parseEnd?

/-- Every form has a keyword that can be one. -/
lemma isKeyword (f : Form) : IsKeyword f.keyword := by
  have hne : f.keyword.toList ≠ [] := by cases f <;> decide
  have hall : f.keyword.toList.all (fun c => !Text.isBlank c) = true := by cases f <;> decide
  exact ⟨hne, by simpa using hall⟩

/-- No two forms have the same keyword. -/
lemma keyword_injective : Function.Injective keyword := by
  intro f g
  cases f <;> cases g <;> decide

end Form

/-- A directive with parameters is read where a text names its target and gives them. -/
lemma withParams?_eq_some_iff {make : String → Option String → Directive}
    (hkeyword : IsKeyword word) :
    withParams? word make s = some d ↔
      ∃ target behind params, Names word target behind s ∧ GivesParams behind params ∧
        make (String.ofList target) params = d := by
  rw [withParams?, Option.map_eq_some_iff]
  constructor
  · rintro ⟨⟨target, behind⟩, hbind, rfl⟩
    have hnames := (bind_target?_iff hkeyword).1 hbind
    exact ⟨target, behind, _, hnames, (givesParams_iff hnames.isBlank_behind).2 rfl, rfl⟩
  · rintro ⟨target, behind, params, hnames, hparams, rfl⟩
    obtain rfl := (givesParams_iff hnames.isBlank_behind).1 hparams
    exact ⟨(target, behind), (bind_target?_iff hkeyword).2 hnames, rfl⟩

/-- A reference is read where a text names it. -/
lemma withReference?_eq_some_iff {make : String → Directive} (hkeyword : IsKeyword word) :
    withReference? word make s = some d ↔
      ∃ target behind, Names word target behind s ∧ make (String.ofList target) = d := by
  simp only [withReference?, Option.map_eq_some_iff, Prod.exists, bind_target?_iff hkeyword]

/-- The beginning of an extraction is read where its keyword stands before white space. -/
lemma parseBegin?_eq_some_iff :
    parseBegin? s = some d ↔
      ∃ gap rest, Leads "includeAt" (gap ++ rest) s ∧ Text.allBlank gap = true ∧ gap ≠ [] ∧
        .beginCapture (captureParams rest) = d := by
  have hkeyword : IsKeyword "includeAt" := Form.beginCapture.isKeyword
  simp only [parseBegin?, Option.map_eq_some_iff, Option.bind_eq_some_iff,
    afterKeyword?_iff_leads hkeyword]
  constructor
  · rintro ⟨rest, ⟨after, hleads, hrest⟩, rfl⟩
    obtain ⟨gap, rfl, hgap, hne⟩ := exists_of_behindBlank? hrest
    exact ⟨gap, rest, hleads, hgap, hne, rfl⟩
  · rintro ⟨gap, rest, hleads, hgap, hne, rfl⟩
    refine ⟨_, ⟨_, hleads, behindBlank?_append hgap hne rest⟩, ?_⟩
    have hall : Text.allBlank (rest.takeWhile Text.isBlank) = true :=
      List.all_eq_true.2 fun _ hc => List.mem_takeWhile_imp hc
    rw [← captureParams_append hall (Text.trimStart rest), Text.trimStart,
      List.takeWhile_append_dropWhile]

/-- The end of an extraction is read where its keyword stands alone. -/
lemma parseEnd?_eq_some_iff :
    parseEnd? s = some d ↔
      ∃ gap, Leads "endAt" gap s ∧ Text.allBlank gap = true ∧ .endCapture = d := by
  have hkeyword : IsKeyword "endAt" := Form.endCapture.isKeyword
  simp only [parseEnd?_eq, Option.bind_eq_some_iff, afterKeyword?_iff_leads hkeyword,
    Option.ite_none_right_eq_some, Option.some.injEq]

/-- **A reader accepts exactly the contents that spell a directive of its form.**

**Proof sketch.** The cases of the form in one direction, and of the spelling in the other; what the
reader of a form accepts has been brought to the words of the grammar before. -/
theorem Form.read?_eq_some_iff {f : Form} : f.read? s = some d ↔ Spells s d ∧ d.form = f := by
  constructor
  · intro h
    cases f with
    | includeFile =>
      obtain ⟨_, _, _, hnames, hparams, rfl⟩ :=
        (withParams?_eq_some_iff Form.includeFile.isKeyword).1 h
      exact ⟨.includeFile hnames hparams, rfl⟩
    | includeComponent =>
      obtain ⟨_, _, _, hnames, hparams, rfl⟩ :=
        (withParams?_eq_some_iff Form.includeComponent.isKeyword).1 h
      exact ⟨.includeComponent hnames hparams, rfl⟩
    | script =>
      obtain ⟨_, _, hnames, rfl⟩ := (withReference?_eq_some_iff Form.script.isKeyword).1 h
      exact ⟨.script hnames, rfl⟩
    | style =>
      obtain ⟨_, _, hnames, rfl⟩ := (withReference?_eq_some_iff Form.style.isKeyword).1 h
      exact ⟨.style hnames, rfl⟩
    | beginCapture =>
      obtain ⟨_, _, hleads, hgap, hne, rfl⟩ := parseBegin?_eq_some_iff.1 h
      exact ⟨.beginCapture hleads hgap hne, rfl⟩
    | endCapture =>
      obtain ⟨_, hleads, hgap, rfl⟩ := parseEnd?_eq_some_iff.1 h
      exact ⟨.endCapture hleads hgap, rfl⟩
  · rintro ⟨h, rfl⟩
    cases h with
    | includeFile hnames hparams =>
      exact (withParams?_eq_some_iff Form.includeFile.isKeyword).2
        ⟨_, _, _, hnames, hparams, rfl⟩
    | includeComponent hnames hparams =>
      exact (withParams?_eq_some_iff Form.includeComponent.isKeyword).2
        ⟨_, _, _, hnames, hparams, rfl⟩
    | script hnames =>
      exact (withReference?_eq_some_iff Form.script.isKeyword).2 ⟨_, _, hnames, rfl⟩
    | style hnames =>
      exact (withReference?_eq_some_iff Form.style.isKeyword).2 ⟨_, _, hnames, rfl⟩
    | beginCapture hleads hgap hne =>
      exact parseBegin?_eq_some_iff.2 ⟨_, _, hleads, hgap, hne, rfl⟩
    | endCapture hleads hgap => exact parseEnd?_eq_some_iff.2 ⟨_, hleads, hgap, rfl⟩

/-! ## Telling the forms apart -/

/-- The first word of a directive is its keyword. -/
theorem Spells.firstWord_eq (h : Spells s d) : firstWord s = d.form.keyword.toList := by
  cases h with
  | includeFile hnames => exact hnames.firstWord_eq Form.includeFile.isKeyword
  | includeComponent hnames => exact hnames.firstWord_eq Form.includeComponent.isKeyword
  | script hnames => exact hnames.firstWord_eq Form.script.isKeyword
  | style hnames => exact hnames.firstWord_eq Form.style.isKeyword
  | beginCapture hleads hgap hne =>
    exact hleads.firstWord_eq Form.beginCapture.isKeyword (isBlank_of_head?_append hgap hne _)
  | endCapture hleads hgap =>
    exact hleads.firstWord_eq Form.endCapture.isKeyword
      fun c hc => List.all_eq_true.1 hgap c (List.mem_of_mem_head? hc)

/-- No content spells directives of two forms. -/
theorem Spells.form_eq (h : Spells s d) (h' : Spells s d') : d.form = d'.form :=
  Form.keyword_injective (String.toList_injective (h.firstWord_eq.symm.trans h'.firstWord_eq))

namespace Form

variable {f g : Form}

/-- **No content is accepted by two readers.** -/
theorem eq_of_isSome (hf : (f.read? s).isSome = true) (hg : (g.read? s).isSome = true) : f = g := by
  obtain ⟨d, hd⟩ := Option.isSome_iff_exists.1 hf
  obtain ⟨d', hd'⟩ := Option.isSome_iff_exists.1 hg
  obtain ⟨hspells, rfl⟩ := read?_eq_some_iff.1 hd
  obtain ⟨hspells', rfl⟩ := read?_eq_some_iff.1 hd'
  exact hspells.form_eq hspells'

/-- Whatever the order in which the forms are tried, the directive that is found is the one that
the content spells. -/
theorem findSome?_eq_some_iff {order : List Form} (horder : ∀ f, f ∈ order) :
    (order.findSome? fun f => f.read? s) = some d ↔ Spells s d := by
  rw [findSome?_eq_some_iff_of_unique fun f g => eq_of_isSome]
  constructor
  · rintro ⟨f, -, hf⟩
    exact (read?_eq_some_iff.1 hf).1
  · intro h
    exact ⟨d.form, horder _, read?_eq_some_iff.2 ⟨h, rfl⟩⟩

end Form

/-- **Directives are recognised exactly as the grammar has it.**  For every content, the directive
that is recognised is the one that the content spells; none is recognised where it spells none; at
most one of the six readers accepts it; and so the same is recognised in whatever order they are
tried.

**Proof sketch.** Each reader accepts the contents of its form (`Form.read?_eq_some_iff`), and the
first word of a content is the keyword of its form (`Spells.firstWord_eq`). -/
theorem parse?_grammar (content : String) :
    (∀ d, parse? content = some d ↔ Spells content.toList d) ∧
      (parse? content = none ↔ ∀ d, ¬ Spells content.toList d) ∧
      (∀ f g : Form, (f.read? content.toList).isSome = true →
        (g.read? content.toList).isSome = true → f = g) ∧
      ∀ order : List Form, (∀ f, f ∈ order) →
        (order.findSome? fun f => f.read? content.toList) = parse? content := by
  have hall : ∀ f, f ∈ Form.all := by
    intro f
    cases f <;> decide
  have hparse (d : Directive) : parse? content = some d ↔ Spells content.toList d :=
    Form.findSome?_eq_some_iff hall
  refine ⟨hparse, ?_, fun f g => Form.eq_of_isSome, fun order horder => ?_⟩
  · rw [Option.eq_none_iff_forall_ne_some]
    exact forall_congr' fun d => not_congr (hparse d)
  · refine Option.ext fun d => ?_
    rw [hparse d]
    exact Form.findSome?_eq_some_iff horder

example :
    parse? "includeModule\u00a0nav  p " = some (.includeComponent "nav" (some "p")) ∧
      parse? "includeAt" = none ∧ parse? "includeAt\n" = some (.beginCapture "") := by
  decide +kernel

end Stencil.Directive
