import Stencil.Artifact
import Stencil.Block.Tree
import Stencil.Proofs.Template.Marking

/-!
# Scopes in listings

A compiled program leaves every scope that it enters.  So no scope is left twice when its blocks are
put into a tree, and its listing closes at the end of a scope what it has opened at the beginning.

## Main definitions

* `Stencil.ScopeEntry.blocks` — the lines of a listing that open the blocks of a scope.
* `Stencil.Program.openBehind` — how many blocks the scopes have that are open behind a program.
* `Stencil.Level.countScopes` — how many of some open constructs are scopes.

## Main results

* `Stencil.Template.forall_pass` — what every instruction is that a pass over a template makes.
* `Stencil.Template.balanced_of_withoutDirectives` — without its directives, a template enters no
  scope.
* `Stencil.Program.Balanced.ofProgram_ne_strayExit` — no scope of a balanced program is left twice.
* `Stencil.Program.Balanced.exists_enter` — what a balanced program leaves it has entered.
* `Stencil.Program.listing_scope` — the listing of a scope.
* `Stencil.Program.scopes_listed` — compiled programs are balanced, and what balanced programs open
  in their listings they close.

## Design

A listing is written on a stack of numbers.  A balanced program leaves that stack as it was, so what
it is written on does not show in its listing.
-/

set_option relaxedAutoImplicit false
set_option autoImplicit false

namespace Stencil

open Script (BlockFault)

/-! ## What a pass makes -/

namespace Pass

variable {P : Instruction → Prop} {t : Template}
  {follow : Directive → Pass → Except CompileError Pass}

/-- A marker is all that is made of the lines of a segment. -/
lemma forall_advance (hline : ∀ number, P (.line number)) (options : Options) (p : Pass)
    (s : Segment) (hp : ∀ i ∈ p.program, P i) : ∀ i ∈ (p.advance options s).program, P i := by
  refine List.forall_mem_append.2 ⟨hp, ?_⟩
  show ∀ i ∈ (p.reader.advance options s.newlines).2, P i
  unfold Reader.advance
  dsimp only
  split
  · exact List.forall_mem_singleton.2 (hline _)
  · exact List.forall_mem_nil _

/-- Every instruction that a pass makes has a property if those have it that are made of what is
read, markers, and those that are made of directives.

**Proof sketch.** Induction on the segments, for any pass that has the property so far.  A segment
is a directive that is followed, or it is read; the marker of a new line is put out behind
either. -/
theorem forall_segments (hline : ∀ number, P (.line number))
    (htake : ∀ (r : Reader) (s : Segment), ∀ i ∈ (r.take t.options s).2, P i)
    (hfollow : ∀ d p q, follow d p = .ok q → (∀ i ∈ p.program, P i) → ∀ i ∈ q.program, P i)
    {before : Option Tag} {p q : Pass} {segments : List Segment} (hp : ∀ i ∈ p.program, P i)
    (h : p.segments t follow before segments = .ok q) : ∀ i ∈ q.program, P i := by
  induction segments generalizing before p with
  | nil =>
    cases h
    exact hp
  | cons s rest ih =>
    rw [Pass.segments] at h
    split at h
    · cases h
    · cases hr : p.segment t.options follow before s with
      | error e => rw [hr] at h; cases h
      | ok r =>
        rw [hr] at h
        refine ih ?_ h
        unfold segment at hr
        split at hr
        · next d hd =>
          cases hu : follow d p with
          | error e => rw [hu] at hr; cases hr
          | ok u =>
            rw [hu] at hr
            cases hr
            exact forall_advance hline t.options u s (hfollow d p u hu hp)
        · cases hr
          -- what is read is put out before the marker of its lines
          have hread : ∀ i ∈ p.program ++ (p.reader.take t.options s).2, P i :=
            List.forall_mem_append.2 ⟨hp, htake p.reader s⟩
          have hscan := forall_advance hline t.options
            ⟨_, (p.reader.take t.options s).1, p.collector, p.dependencies⟩ s hread
          rw [scan, Reader.scan_eq_take]
          simpa only [emit, advance, List.append_assoc] using hscan

end Pass

namespace Template

variable {P : Instruction → Prop} {t : Template}

/-- **Every instruction that a pass over a template makes has a property** if those have it that are
made of what is read, markers, and those that are made of directives. -/
theorem forall_pass {follow : Directive → Pass → Except CompileError Pass} {start q : Pass}
    (hline : ∀ number, P (.line number))
    (htake : ∀ (r : Reader) (s : Segment), ∀ i ∈ (r.take t.options s).2, P i)
    (hfollow : ∀ d p q, follow d p = .ok q → (∀ i ∈ p.program, P i) → ∀ i ∈ q.program, P i)
    (hstart : ∀ i ∈ start.program, P i) (h : t.pass follow start = .ok q) :
    ∀ i ∈ q.program, P i := by
  unfold pass at h
  cases hsegments : Segment.splitChecked t.options.delimiter t.text with
  | error e => rw [hsegments] at h; cases h
  | ok segments =>
    rw [hsegments] at h
    exact Pass.forall_segments hline htake hfollow hstart h

/-- Every instruction of a template without its directives has a property if what is read has
it, and markers. -/
theorem forall_withoutDirectives {program : Program} (hline : ∀ number, P (.line number))
    (htake : ∀ (r : Reader) (s : Segment), ∀ i ∈ (r.take t.options s).2, P i)
    (h : t.withoutDirectives = .ok program) : ∀ i ∈ program, P i := by
  unfold withoutDirectives at h
  cases hq : t.pass (fun _ p => .ok p) {} with
  | error e => rw [hq] at h; cases h
  | ok q =>
    rw [hq] at h
    cases h
    refine forall_pass hline htake (fun d p q hpq hp => ?_) (List.forall_mem_nil _) hq
    cases hpq
    exact hp

/-- **Without its directives, a template enters no scope.** -/
lemma balanced_of_withoutDirectives {t : Template} {program : Program}
    (h : t.withoutDirectives = .ok program) : program.Balanced :=
  .of_forall (forall_withoutDirectives (fun _ => rfl) (Reader.isScope_take t.options) h)

end Template

/-! ## Building -/

/-- Whether an open construct is a scope. -/
def Opened.isScope : Opened → Bool
  | scope _ => true
  | loop _ | branch _ _ => false

/-- What ends an open construct in place of another is no scope that is left twice. -/
lemma Opened.openFault_ne_strayExit (o : Opened) : o.openFault ≠ .strayExit := by
  cases o <;> nofun

/-- **The number of scopes among open constructs.** -/
def Level.countScopes (levels : List Level) : Nat := levels.countP (·.opened.isScope)

namespace Program

variable {p : Program} {classify : String → Fragment} {nodes : List Node} {levels : List Level}
  {rest : Program}

/-- A fragment opens and closes no scope. -/
lemma buildBlock_exec_ne_strayExit (fragment : String)
    (hrest : ∀ nodes' levels', Level.countScopes levels' = Level.countScopes levels →
      buildBlock classify nodes' levels' rest ≠ .error .strayExit) :
    buildBlock classify nodes levels (.exec fragment :: rest) ≠ .error .strayExit := by
  rw [buildBlock.eq_def]
  cases hclass : classify fragment with
  | simple => simpa only [hclass] using hrest _ levels rfl
  | openBranch condition => simpa only [hclass] using hrest [] (_ :: levels) rfl
  | openLoop header => simpa only [hclass] using hrest [] (_ :: levels) rfl
  | alternative next =>
    simp only [hclass]
    split <;> first | exact hrest _ _ rfl | simp
  | close =>
    simp only [hclass]
    split <;> first | exact hrest _ _ rfl | simp

/-- What leaves a scope while one is open leaves none twice. -/
lemma buildBlock_exitScope_ne_strayExit {depth : Nat}
    (hlevels : Level.countScopes levels = depth + 1)
    (hrest : ∀ nodes' levels', Level.countScopes levels' = depth →
      buildBlock classify nodes' levels' rest ≠ .error .strayExit) :
    buildBlock classify nodes levels (.exitScope :: rest) ≠ .error .strayExit := by
  cases levels with
  | nil => cases hlevels
  | cons level levels =>
    obtain ⟨opened, before⟩ := level
    cases opened with
    | scope entry =>
      have hdepth : Level.countScopes levels = depth := by
        rw [Level.countScopes, List.countP_cons_of_pos rfl] at hlevels
        exact Nat.succ.inj hlevels
      rw [buildBlock]
      exact hrest _ _ hdepth
    | loop header => simp [buildBlock, Opened.openFault]
    | branch done condition => simp [buildBlock, Opened.openFault]

/-- Behind a balanced program as many scopes are open as before it, if building goes on at all.
So no scope is left twice in it unless one is left twice behind it.

**Proof sketch.** Induction on how the program is balanced.  A fragment opens and closes conditions
and loops alone, and cannot get past a scope.  What leaves a scope finds at least this one open. -/
lemma Balanced.buildBlock_ne_strayExit (h : p.Balanced)
    (hrest : ∀ nodes' levels', Level.countScopes levels' = Level.countScopes levels →
      buildBlock classify nodes' levels' rest ≠ .error .strayExit) :
    buildBlock classify nodes levels (p ++ rest) ≠ .error .strayExit := by
  induction h generalizing nodes levels rest with
  | nil => exact hrest nodes levels rfl
  | @single i hi =>
    cases i with
    | step s =>
      rw [List.singleton_append, buildBlock]
      exact hrest _ levels rfl
    | exec fragment => exact buildBlock_exec_ne_strayExit fragment hrest
    | enterScope | exitScope => cases hi
  | append _ _ ihp ihq =>
    rw [List.append_assoc]
    exact ihp fun nodes' levels' hlevels => ihq fun nodes'' levels'' hlevels' =>
      hrest nodes'' levels'' (hlevels'.trans hlevels)
  | scope entry _ ih =>
    rw [List.append_assoc, List.cons_append, buildBlock]
    refine ih fun nodes' levels' hlevels => ?_
    have hdepth : Level.countScopes levels' = Level.countScopes levels + 1 :=
      hlevels.trans (List.countP_cons_of_pos rfl)
    exact buildBlock_exitScope_ne_strayExit hdepth hrest

/-- **No scope of a balanced program is left twice,** however its fragments are understood. -/
theorem Balanced.ofProgram_ne_strayExit (h : p.Balanced) (classify : String → Fragment) :
    Block.ofProgram classify p ≠ .error .strayExit := by
  rw [Block.ofProgram, ← List.append_nil p]
  refine h.buildBlock_ne_strayExit fun nodes levels _ => ?_
  cases levels with
  | nil => nofun
  | cons level levels => simpa [buildBlock] using level.opened.openFault_ne_strayExit

/-! ## Listing -/

/-- **The numbers of blocks of the scopes that are open** behind an instruction. -/
def openBehind (scopes : List Nat) : Instruction → List Nat
  | .enterScope scope => scope.params.length :: scopes
  | .exitScope => scopes.tail
  | _ => scopes

/-- A program is listed instruction by instruction. -/
lemma listFrom_append (scopes : List Nat) (p q : Program) :
    listFrom scopes (p ++ q) =
      listFrom scopes p ++ listFrom (p.foldl openBehind scopes) q := by
  induction p generalizing scopes with
  | nil => simp [listFrom]
  | cons i rest ih => cases i <;> simp [listFrom, openBehind, ih, String.append_assoc]

/-- More instructions are listed behind those before them. -/
lemma exists_listing_append (p q : Program) : ∃ more, (p ++ q).listing = p.listing ++ more :=
  ⟨_, listFrom_append [] p q⟩

/-- Behind a balanced program the scopes are open that are open before it. -/
lemma Balanced.foldl_openBehind (h : p.Balanced) (scopes : List Nat) :
    p.foldl openBehind scopes = scopes := by
  induction h generalizing scopes with
  | nil => rfl
  | @single i hi => cases i <;> first | rfl | cases hi
  | append _ _ ihp ihq => rw [List.foldl_append, ihp, ihq]
  | scope entry _ ih => simp [openBehind, ih]

/-- The listing of a balanced program does not depend on the scopes that it stands in. -/
lemma Balanced.listFrom_eq (h : p.Balanced) (scopes : List Nat) :
    listFrom scopes p = p.listing := by
  unfold listing
  suffices ∀ scopes', listFrom scopes p = listFrom scopes' p from this []
  induction h generalizing scopes with
  | nil => exact fun _ => rfl
  | @single i hi => cases i <;> first | exact fun _ => rfl | cases hi
  | append hp _ ihp ihq =>
    intro scopes'
    rw [listFrom_append, listFrom_append, ihp _ scopes', hp.foldl_openBehind,
      hp.foldl_openBehind, ihq _ scopes']
  | scope entry hbody ih =>
    intro scopes'
    simp only [List.cons_append, listFrom, listFrom_append, hbody.foldl_openBehind, List.head?_cons,
      Option.getD_some]
    rw [ih _ (entry.params.length :: scopes')]

/-- **What a balanced program leaves it has entered,** with a balanced program in between.

**Proof sketch.** Induction on the derivation of balance.  In two programs put together, the
instruction stands in one of them, or at the front of the second, which would then leave what it has
not entered.  In a scope, it is the last instruction, or it stands in the body. -/
lemma Balanced.exists_enter {front behind : Program} (h : p.Balanced)
    (heq : p = front ++ .exitScope :: behind) :
    ∃ (before : Program) (entry : ScopeEntry) (body : Program),
      front = before ++ .enterScope entry :: body ∧ body.Balanced := by
  induction h generalizing front behind with
  | nil => simp at heq
  | @single i hi =>
    have hmem : .exitScope ∈ [i] := by simp [heq]
    obtain rfl := List.mem_singleton.1 hmem
    cases hi
  | @append p q _ _ ihp ihq =>
    obtain ⟨more, rfl, hq⟩ | ⟨more, hp, hbehind⟩ := List.append_eq_append_iff.1 heq
    · obtain ⟨before, entry, body, rfl, hbody⟩ := ihq hq
      exact ⟨p ++ before, entry, body, by simp, hbody⟩
    · cases more with
      | nil =>
        -- what is left at the front of the second program would have been entered in it
        have hq : q = [] ++ .exitScope :: behind := hbehind.symm
        obtain ⟨before, entry, body, hfront, -⟩ := ihq hq
        simp at hfront
      | cons i more =>
        rw [List.cons_append, List.cons.injEq] at hbehind
        obtain ⟨rfl, -⟩ := hbehind
        exact ihp hp
  | @scope entry body hbody ih =>
    cases front with
    | nil => simp at heq
    | cons i front =>
      rw [List.cons_append, List.cons_append, List.cons.injEq] at heq
      obtain ⟨rfl, heq⟩ := heq
      rcases List.eq_nil_or_concat' behind with rfl | ⟨behind, last, rfl⟩
      · obtain ⟨rfl, -⟩ := List.append_inj' heq rfl
        exact ⟨[], entry, body, rfl, hbody⟩
      · rw [← List.cons_append, ← List.append_assoc] at heq
        obtain ⟨hinner, -⟩ := List.append_inj' heq rfl
        obtain ⟨before, inner, body', rfl, hbody'⟩ := ih hinner
        exact ⟨.enterScope entry :: before, inner, body', rfl, hbody'⟩

end Program

/-- **The lines that open the blocks of a scope,** one for each of its parameters. -/
def ScopeEntry.blocks (entry : ScopeEntry) : List String :=
  entry.params.map fun p => "  with (" ++ p ++ " || \x7b\x7d) \x7b\n"

namespace Program

/-- The end of a scope closes the blocks that are open in it, and the function that the scope is. -/
lemma listExit_eq (entry : ScopeEntry) :
    listExit entry.params.length =
      String.join (entry.blocks.map fun _ => "  \x7d\n") ++ "    ; \x7d)()\n" := by
  have hblocks : entry.blocks.map (fun _ => "  \x7d\n") =
      List.replicate entry.params.length "  \x7d\n" := by
    rw [List.map_const', ScopeEntry.blocks, List.length_map]
  rw [hblocks, listExit]
  rfl

/-- **The listing of a scope:** a function with the blocks opened, what the scope holds, and the
blocks closed before the function is. -/
theorem listing_scope (before : Program) (entry : ScopeEntry) {body : Program}
    (h : body.Balanced) :
    let front : Program := before ++ .enterScope entry :: body
    front.listing = before.listing ++
        ("    ; (function()\x7b\n" ++ String.join entry.blocks) ++ body.listing ∧
      listing (front ++ [.exitScope]) = front.listing ++
        (String.join (entry.blocks.map fun _ => "  \x7d\n") ++ "    ; \x7d)()\n") := by
  intro front
  have hopen : front.foldl openBehind [] =
      entry.params.length :: before.foldl openBehind [] := by
    rw [List.foldl_append, List.foldl_cons, openBehind, h.foldl_openBehind]
  constructor
  · rw [listing, listFrom_append, listFrom, h.listFrom_eq, ← String.append_assoc]
    rfl
  · rw [listing, listFrom_append, hopen, listFrom, List.head?_cons, Option.getD_some, listExit_eq]
    exact congrArg _ String.append_empty

/-- The code for build tools has the listing of a program in it. -/
lemma exists_of_prebuild {options : Options} {text code : String}
    (h : prebuild options text = .ok code) : ∃ (p : Program) (opening closing : String),
      (Template.ofText { options with diagnostics := false } text).withoutDirectives = .ok p ∧
      code = opening ++ p.listing ++ closing := by
  unfold prebuild at h
  dsimp only at h
  cases hp : (Template.ofText { options with diagnostics := false } text).withoutDirectives with
  | error e => rw [hp] at h; cases h
  | ok p =>
    rw [hp] at h
    cases h
    exact ⟨p, _, _, rfl, String.append_assoc⟩

/-- **Scopes are left as they are entered.**

1. A compiled program is balanced: it leaves every scope that it enters, and no other.
2. So is the program that a template without its directives is made into for build tools, whose
   listing stands in their code.
3. No scope of a balanced program is left twice when its blocks are put into a tree, however its
   fragments are understood.  Where a scope is left, there is a scope that was entered, with a
   balanced program in between.  From such a scope on, the listing is that of the scope: a function
   in which there is a block for each parameter, then the listing of what is in between, and, for
   the instruction that leaves the scope, the end of as many blocks and of the function.

**Proof sketch.** What an include adds to a program is a scope around a program that is balanced
(`Template.balanced_of_expand`).  A balanced program leaves the stack on which the listing is
written as it was (`Balanced.foldl_openBehind`), so the end of a scope finds there what the
beginning has put there. -/
theorem scopes_listed :
    (∀ (w : Workspace) (options : Options) (text : String) (c : Compiled),
      w.compile options text = .ok c → c.program.Balanced) ∧
    (∀ (options : Options) (text code : String), prebuild options text = .ok code →
      ∃ (program : Program) (opening closing : String),
        (Template.ofText { options with diagnostics := false } text).withoutDirectives =
          .ok program ∧
        program.Balanced ∧ code = opening ++ program.listing ++ closing) ∧
    ∀ p : Program, p.Balanced →
      (∀ classify, Block.ofProgram classify p ≠ .error .strayExit) ∧
      ∀ front behind : Program, p = front ++ .exitScope :: behind →
        (∃ (before : Program) (entry : ScopeEntry) (body : Program),
          front = before ++ .enterScope entry :: body ∧ body.Balanced) ∧
        ∀ (before : Program) (entry : ScopeEntry) (body : Program),
          front = before ++ .enterScope entry :: body → body.Balanced →
          front.listing = before.listing ++
              ("    ; (function()\x7b\n" ++ String.join entry.blocks) ++ body.listing ∧
            listing (front ++ [.exitScope]) = front.listing ++
              (String.join (entry.blocks.map fun _ => "  \x7d\n") ++ "    ; \x7d)()\n") ∧
            ∃ more, p.listing = listing (front ++ [.exitScope]) ++ more := by
  refine ⟨fun w options text c h => Template.balanced_of_expand h, fun options text code h => ?_,
    fun p hp => ⟨hp.ofProgram_ne_strayExit, fun front behind hfront =>
      ⟨hp.exists_enter hfront, ?_⟩⟩⟩
  · obtain ⟨program, opening, closing, hprogram, hcode⟩ := exists_of_prebuild h
    exact ⟨program, opening, closing, hprogram, Template.balanced_of_withoutDirectives hprogram,
      hcode⟩
  · rintro before entry body rfl hbody
    obtain ⟨henter, hexit⟩ := listing_scope before entry hbody
    refine ⟨henter, hexit, ?_⟩
    rw [hfront, List.append_cons]
    exact exists_listing_append _ behind

/-- An include inside one that is given parameters.  The end of the outer scope closes the one block
of this scope, not those of the inner scope. -/
theorem scopes_listed_nested :
    let templates := Templates.ofList [(⟨"/b.ejs"⟩, "<% include c %>-"), (⟨"/c.ejs"⟩, "z")]
    let w : Workspace := { library := templates.library, lookup := Registry.lookup {} }
    let options : Options := { sourcePath := some ⟨"/a.ejs"⟩ }
    let text := "<% include b \x7bx: 1\x7d %>!"
    let inner : Program :=
      [.enterScope ⟨[], false, some ⟨"/c.ejs", "z"⟩⟩, .append "z", .exitScope, .append "-"]
    let entry : ScopeEntry := ⟨["\x7bx: 1\x7d"], true, some ⟨"/b.ejs", "<% include c %>-"⟩⟩
    let front : Program := .enterScope entry :: inner
    ∃ c, w.compile options text = .ok c ∧
      c.program = front ++ [Instruction.exitScope, .append "!"] ∧ c.program.Balanced ∧
      inner.Balanced ∧
      listing (front ++ [.exitScope]) = front.listing ++ ("  \x7d\n" ++ "    ; \x7d)()\n") := by
  intro templates w options text inner entry front
  obtain ⟨c, hc, hprogram⟩ : ∃ c, Template.expand w (.ofText options text) = .ok c ∧
      c.program = front ++ [Instruction.exitScope, .append "!"] :=
    Template.exists_of_map_expand (by decide +kernel)
  have hinner : inner.Balanced := .append (.scope _ (.single rfl)) (.single rfl)
  have hbalanced := scopes_listed.1 w options text c hc
  obtain ⟨-, hexit, -⟩ :=
    ((scopes_listed.2.2 c.program hbalanced).2 front _ hprogram).2 [] entry inner rfl hinner
  exact ⟨c, hc, hprogram, hbalanced, hinner, hexit⟩

end Program

end Stencil
