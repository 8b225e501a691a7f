import Stencil.Proofs.Path.Normal
import Stencil.Session

/-!
# Caching

Keeping compiled templates changes no answer, as long as what was kept is dropped whenever the
templates change.

## Main definitions

* `Stencil.Cache.Fresh` — a cache in which nothing has been put.
* `Stencil.Session.Request`, `Stencil.Session.Answer` — what a session is asked for, and what it
  answers.
* `Stencil.Session.Request.cleared` — whether the cache is cleared between every change of the
  templates and the next request for one.
* `Stencil.Session.UpToDate` — a session that keeps what compiling would make now.

## Main results

* `Stencil.Session.compileFile_serves` — from such a session a template is had as if it were
  compiled.
* `Stencil.Session.respond_shadows` — a session with a cache answers a request as one without.
* `Stencil.Session.answers_cached` — caching is not seen in the answers.

## Design

A store of limited capacity may drop entries whenever it is used.  Of the store it is assumed that
it does no more than that (`BoundedStore.Forgets`), and `UpToDate` speaks of entries that may be
answered, not of entries that should be.
-/

set_option relaxedAutoImplicit false
set_option autoImplicit false

namespace Stencil

/-! ## What a cache holds -/

namespace Cache

variable {σ α : Type} {Held : σ → Path.Key → α → Prop} {c : Cache σ α} {path : Path}

/-- What a cache may answer under a key, given what a state of its store may answer. -/
def Holds (Held : σ → Path.Key → α → Prop) : Cache σ α → Path.Key → α → Prop
  | unbounded entries, key, a => (key, a) ∈ entries
  | bounded _ state, key, a => Held state key a

/-- A cache whose store only ever drops entries of its own accord. -/
def Lawful (Held : σ → Path.Key → α → Prop) : Cache σ α → Prop
  | unbounded _ => True
  | bounded store _ => store.Forgets Held

/-- **A cache in which nothing has been put:** one without a limit, or one of any capacity whose
store only ever drops entries of its own accord. -/
inductive Fresh (Held : σ → Path.Key → α → Prop) : Cache σ α → Prop where
  /-- A cache without a limit. -/
  | unbounded : Fresh Held (.unbounded [])
  /-- A cache of limited capacity. -/
  | bounded {store : BoundedStore σ α} (h : store.Forgets Held) (capacity : Nat) :
    Fresh Held (.bounded store (store.new capacity))

/-- The store of a fresh cache only drops entries. -/
lemma Fresh.lawful (h : c.Fresh Held) : c.Lawful Held := by
  cases h with
  | unbounded => trivial
  | bounded h capacity => exact h

/-- There is nothing in a fresh cache. -/
lemma Fresh.not_holds (h : c.Fresh Held) (key : Path.Key) (a : α) : ¬ c.Holds Held key a := by
  cases h with
  | unbounded => exact List.not_mem_nil
  | bounded h capacity => exact h.new capacity key a

/-- Every operation leaves the store as it is. -/
lemma Lawful.get? (h : c.Lawful Held) (path : Path) : (c.get? path).2.Lawful Held := by
  cases c <;> exact h

/-- A cache with an artifact put in keeps the law. -/
lemma Lawful.insert (h : c.Lawful Held) (path : Path) (a : α) :
    (c.insert path a).Lawful Held := by
  cases c <;> exact h

/-- So does a cache that is emptied. -/
lemma Lawful.clear (h : c.Lawful Held) : c.clear.Lawful Held := by
  cases c <;> exact h

/-- What is found was held. -/
lemma Lawful.holds_of_get?_eq_some (h : c.Lawful Held) {a : α} (ha : (c.get? path).1 = some a) :
    c.Holds Held path.parts a := by
  cases c with
  | unbounded entries => exact BoundedStore.mem_of_lookup ha
  | bounded store state => exact h.found ha

/-- Looking for an entry adds none. -/
lemma Lawful.holds_of_holds_get? (h : c.Lawful Held) {key : Path.Key} {a : α}
    (ha : (c.get? path).2.Holds Held key a) : c.Holds Held key a := by
  cases c with
  | unbounded entries => exact ha
  | bounded store state => exact BoundedStore.Forgets.get? h ha

/-- Keeping something adds no other entry. -/
lemma Lawful.holds_of_holds_insert (h : c.Lawful Held) {key : Path.Key} {a b : α}
    (hb : (c.insert path a).Holds Held key b) :
    key = path.parts ∧ b = a ∨ key ≠ path.parts ∧ c.Holds Held key b := by
  cases c with
  | unbounded entries => exact BoundedStore.mem_putFirst.1 hb
  | bounded store state => exact BoundedStore.Forgets.insert h hb

/-- There is nothing in a cache that was cleared. -/
lemma Lawful.not_holds_clear (h : c.Lawful Held) (key : Path.Key) (a : α) :
    ¬ c.clear.Holds Held key a := by
  cases c with
  | unbounded entries => exact List.not_mem_nil
  | bounded store state => exact BoundedStore.Forgets.clear h state key a

/-- Without a limit, looking for an entry changes nothing. -/
lemma snd_get?_unbounded (entries : List (Path.Key × α)) :
    ((unbounded entries : Cache σ α).get? path).2 = unbounded entries := rfl

end Cache

/-! ## What compiling makes -/

/-- The artifact of the template at a path. -/
def Workspace.artifactAt (w : Workspace) (options : Options) (target : Path.Normal) :
    Except CompileError Artifact :=
  ((w.library.read target.path).mapError (.unreadableSource target.path)).bind
    (w.artifact { options with sourcePath := some target.path })

namespace Session

/-! ## Requests -/

/-- **What may happen to a session.** -/
inductive Request where
  /-- The template at a path is compiled. -/
  | compileFile (path : Path)
  /-- The template at a path is rendered. -/
  | renderFile (path : Path) (data : Value)
  /-- The templates that were kept are dropped. -/
  | clearCache
  /-- The templates change. -/
  | write (library : Library)

/-- **What a session answers.** -/
inductive Answer where
  /-- A compiled template. -/
  | compiled (result : Except CompileError Artifact)
  /-- A rendered template. -/
  | rendered (result : Except RenderError Rendered)
  /-- That it is done. -/
  | done

variable {σ : Type}

/-- A session with another cache, or without one. -/
def withCache (s : Session σ) (cache : Option (Cache σ Numbered)) : Session σ := { s with cache }

/-- The answer to a request, and the session after it. -/
def respond (s : Session σ) (options : Options) : Request → Answer × Session σ
  | .compileFile path =>
    let (result, s) := s.compileFile path options
    (.compiled (result.map Numbered.artifact), s)
  | .renderFile path data =>
    let (result, s) := s.renderFile path data options
    (.rendered result, s)
  | .clearCache => (.done, s.clearCache)
  | .write library => (.done, { s with workspace := { s.workspace with library } })

/-- The answers to requests, one after the other. -/
def answers (s : Session σ) (options : Options) : List Request → List Answer
  | [] => []
  | request :: rest =>
    let (answer, s) := s.respond options request
    answer :: s.answers options rest

namespace Request

/-- Whether a request is for a template. -/
def asks : Request → Bool
  | compileFile _ | renderFile _ _ => true
  | _ => false

/-- Whether the templates may have changed since the cache was cleared, behind a request and given
whether they may have before it. -/
def outdates (outdated : Bool) : Request → Bool
  | write _ => true
  | clearCache => false
  | _ => outdated

/-- **Whether the cache is cleared between every change of the templates and the next request for
one,** given whether the templates may have changed before. -/
def cleared (outdated : Bool) : List Request → Bool
  | [] => true
  | request :: rest => !(outdated && request.asks) && cleared (request.outdates outdated) rest

end Request

/-! ## Sessions that are up to date -/

/-- A session whose cache, if it has one, only ever drops entries of its own accord. -/
def Lawful (Held : σ → Path.Key → Numbered → Prop) (s : Session σ) : Prop :=
  ∀ cache ∈ s.cache, cache.Lawful Held

/-- **A session that keeps what compiling would make now,** under every spelling of a path. -/
def UpToDate (Held : σ → Path.Key → Numbered → Prop) (options : Options) (s : Session σ) : Prop :=
  ∀ cache ∈ s.cache, ∀ (path : Path) (made : Numbered),
    cache.Holds Held path.normalize.parts made →
      s.workspace.artifactAt options path.toNormal = .ok made.artifact

/-- Sessions that differ at most in what they keep and in the count of their compiles. -/
structure Alike (s t : Session σ) : Prop where
  /-- The templates and the components are the same. -/
  workspace : s.workspace = t.workspace
  /-- The language is the same. -/
  evaluator : s.evaluator = t.evaluator
  /-- The fuel is the same. -/
  fuel : s.fuel = t.fuel

variable {s t : Session σ} {options : Options} {Held : σ → Path.Key → Numbered → Prop}

/-- What a session that is up to date makes of a template: the artifact as it is compiled now, and
a session that is up to date again. -/
structure Serves (Held : σ → Path.Key → Numbered → Prop) (s : Session σ) (options : Options)
    (target : Path.Normal) (served : Except CompileError Numbered × Session σ) : Prop where
  /-- The artifact is what compiling makes now. -/
  artifact : served.1.map Numbered.artifact = s.workspace.artifactAt options target
  /-- The session differs at most in what is kept. -/
  alike : s.Alike served.2
  /-- The cache only drops entries. -/
  lawful : served.2.Lawful Held
  /-- What is kept is what compiling would make. -/
  upToDate : served.2.UpToDate Held options
  /-- No cache comes from nowhere. -/
  cache_eq_none : s.cache = none → served.2.cache = none

/-- A session without a cache has no cache that does more than drop entries. -/
lemma Lawful.of_none (h : s.cache = none) : s.Lawful Held := by
  simp [Lawful, h]

/-- A session without a cache is up to date. -/
lemma UpToDate.of_none (h : s.cache = none) : s.UpToDate Held options := by
  simp [UpToDate, h]

/-- A session that keeps no more than one that is up to date is up to date. -/
lemma UpToDate.mono (h : s.UpToDate Held options) {cache cache' : Cache σ Numbered}
    (hs : s.cache = some cache)
    (hle : ∀ key made, cache'.Holds Held key made → cache.Holds Held key made) :
    { s with cache := some cache' }.UpToDate Held options := by
  rintro _ ⟨⟩ path made hmade
  exact h cache hs path made (hle _ _ hmade)

/-! ## Compiling -/

/-- A template that does not compile leaves the session as it was. -/
lemma compile_of_error {text : Except CompileError String} {e : CompileError}
    (h : text.bind (s.workspace.artifact options) = .error e) :
    s.compile options text = (.error e, s) := by
  rw [compile, h]

/-- A template that compiles is counted. -/
lemma compile_of_ok {text : Except CompileError String} {artifact : Artifact}
    (h : text.bind (s.workspace.artifact options) = .ok artifact) :
    s.compile options text =
      (.ok ⟨s.compiles, artifact⟩, { s with compiles := s.compiles + 1 }) := by
  rw [compile, h]

/-- A template is compiled if there is no cache, or if the options ask for none. -/
lemma cached_eq_compile {text : Except CompileError String}
    (h : s.cache = none ∨ cacheKey? options = none) :
    s.cached options text = s.compile options text := by
  unfold cached
  rcases h with h | h <;> rw [h]
  split
  · next heq => cases heq
  · rfl

/-- What is found in the cache is answered. -/
lemma cached_of_some {text : Except CompileError String} {cache : Cache σ Numbered} {path : Path}
    {found : Numbered} (hcache : s.cache = some cache) (hkey : cacheKey? options = some path)
    (hfound : (cache.get? path).1 = some found) :
    s.cached options text = (.ok found, { s with cache := some (cache.get? path).2 }) := by
  unfold cached
  rw [hcache, hkey]
  dsimp only
  split
  · next heq =>
    rw [heq] at hfound ⊢
    cases hfound
    rfl
  · next heq =>
    rw [heq] at hfound
    cases hfound

/-- What is not found in the cache is compiled, and kept there if it compiles.

**Proof sketch.** The definition is followed with what is known of the cache, up to whether the text
compiles. -/
lemma cached_of_none {text : Except CompileError String} {cache : Cache σ Numbered} {path : Path}
    (hcache : s.cache = some cache) (hkey : cacheKey? options = some path)
    (hmiss : (cache.get? path).1 = none) :
    s.cached options text =
      match text.bind (s.workspace.artifact options) with
      | .ok artifact =>
        (.ok ⟨s.compiles, artifact⟩,
          { s with
            compiles := s.compiles + 1
            cache := some ((cache.get? path).2.insert path ⟨s.compiles, artifact⟩) })
      | .error e => (.error e, { s with cache := some (cache.get? path).2 }) := by
  unfold cached
  rw [hcache, hkey]
  dsimp only
  split
  · next heq =>
    rw [heq] at hmiss
    cases hmiss
  · next heq =>
    rw [heq]
    cases hmade : text.bind (s.workspace.artifact options) with
    | ok artifact => rw [compile_of_ok (s := { s with cache := some _ }) hmade]
    | error e => rw [compile_of_error (s := { s with cache := some _ }) hmade]

/-- **A template is had as if it were compiled now,** from a session that is up to date.

**Proof sketch.** What is found in the cache was kept under a spelling of the same path, so it is
what compiling would make.  What is compiled and kept is what compiling makes. -/
theorem compileFile_serves (hlawful : s.Lawful Held) (h : s.UpToDate Held options) (path : Path) :
    s.Serves Held options path.toNormal (s.compileFile path options) := by
  let options' : Options := { options with sourcePath := some path.normalize }
  let text := (s.workspace.library.read path.normalize).mapError
    (CompileError.unreadableSource path.normalize)
  have hmake : text.bind (s.workspace.artifact options') =
      s.workspace.artifactAt options path.toNormal := rfl
  show s.Serves Held options path.toNormal (s.cached options' text)
  by_cases hplain : s.cache = none ∨ cacheKey? options' = none
  · rw [cached_eq_compile hplain]
    cases hmade : text.bind (s.workspace.artifact options') with
    | error e =>
      rw [compile_of_error hmade]
      exact ⟨hmake ▸ hmade.symm, ⟨rfl, rfl, rfl⟩, hlawful, h, id⟩
    | ok artifact =>
      rw [compile_of_ok hmade]
      exact ⟨hmake ▸ hmade.symm, ⟨rfl, rfl, rfl⟩, hlawful, h, id⟩
  rw [not_or] at hplain
  obtain ⟨cache, hcache⟩ := Option.ne_none_iff_exists'.1 hplain.1
  obtain ⟨key, hkey⟩ := Option.ne_none_iff_exists'.1 hplain.2
  obtain rfl : path.normalize = key := by
    unfold cacheKey? at hkey
    split at hkey <;> cases hkey
    rfl
  have hnone : s.cache = none → ∀ t : Session σ, t.cache = none := fun hnone =>
    absurd hnone hplain.1
  have hcacheLawful : cache.Lawful Held := hlawful cache hcache
  have hafter := hcacheLawful.get? path.normalize
  cases hget : (cache.get? path.normalize).1 with
  | some found =>
    rw [cached_of_some hcache hkey hget]
    refine ⟨?_, ⟨rfl, rfl, rfl⟩, ?_, h.mono hcache fun _ _ => hcacheLawful.holds_of_holds_get?,
      fun hs => hnone hs _⟩
    · exact (h cache hcache path found (hcacheLawful.holds_of_get?_eq_some hget)).symm
    · rintro _ ⟨⟩
      exact hafter
  | none =>
    rw [cached_of_none hcache hkey hget]
    cases hmade : text.bind (s.workspace.artifact options') with
    | error e =>
      refine ⟨hmake ▸ hmade.symm, ⟨rfl, rfl, rfl⟩, ?_,
        h.mono hcache fun _ _ => hcacheLawful.holds_of_holds_get?, fun hs => hnone hs _⟩
      rintro _ ⟨⟩
      exact hafter
    | ok artifact =>
      refine ⟨hmake ▸ hmade.symm, ⟨rfl, rfl, rfl⟩, ?_, ?_, fun hs => hnone hs _⟩
      · rintro _ ⟨⟩
        exact hafter.insert _ _
      · rintro _ ⟨⟩ path' made hheld
        obtain ⟨hparts, rfl⟩ | ⟨-, hold⟩ := hafter.holds_of_holds_insert hheld
        · -- the other spelling stands for the same path
          rw [Path.toNormal_eq_of_parts hparts]
          exact hmake ▸ hmade
        · exact h cache hcache path' made (hcacheLawful.holds_of_holds_get? hold)

/-- What is left of a session that was asked in vain: at most the cache is another, and it holds
nothing that it did not hold before. -/
structure KeepsNoMore (Held : σ → Path.Key → Numbered → Prop) (s t : Session σ) : Prop where
  /-- At most the cache is another. -/
  others : t = { s with cache := t.cache }
  /-- What is held was held before. -/
  holds : ∀ cache' ∈ t.cache, ∃ cache ∈ s.cache, ∀ key made,
    cache'.Holds Held key made → cache.Holds Held key made
  /-- Only a store of limited capacity can have changed. -/
  bounded : s = t ∨ ∃ store state, s.cache = some (.bounded store state)

/-- A session keeps no more than itself. -/
lemma KeepsNoMore.refl (s : Session σ) : s.KeepsNoMore Held s :=
  ⟨rfl, fun cache hcache => ⟨cache, hcache, fun _ _ => id⟩, .inl rfl⟩

/-- A template that does not compile adds nothing to the cache.

**Proof sketch.** Without a cache or a key, nothing is looked up.  An entry that is found is no
failure.  If there is none, the cache is left as the lookup leaves it, and a lookup only moves what
is held. -/
lemma cached_of_error (hlawful : s.Lawful Held) {text : Except CompileError String}
    {e : CompileError} (h : (s.cached options text).1 = .error e) :
    s.KeepsNoMore Held (s.cached options text).2 := by
  by_cases hplain : s.cache = none ∨ cacheKey? options = none
  · rw [cached_eq_compile hplain] at h ⊢
    cases hmade : text.bind (s.workspace.artifact options) with
    | error e' =>
      rw [compile_of_error hmade]
      exact .refl s
    | ok artifact =>
      rw [compile_of_ok hmade] at h
      cases h
  rw [not_or] at hplain
  obtain ⟨cache, hcache⟩ := Option.ne_none_iff_exists'.1 hplain.1
  obtain ⟨key, hkey⟩ := Option.ne_none_iff_exists'.1 hplain.2
  cases hget : (cache.get? key).1 with
  | some found =>
    rw [cached_of_some hcache hkey hget] at h
    cases h
  | none =>
    rw [cached_of_none hcache hkey hget] at h ⊢
    cases hmade : text.bind (s.workspace.artifact options) with
    | ok artifact =>
      rw [hmade] at h
      cases h
    | error e' =>
      refine ⟨rfl, ?_, ?_⟩
      · rintro _ ⟨⟩
        exact ⟨cache, hcache, fun _ _ => (hlawful cache hcache).holds_of_holds_get?⟩
      · cases cache with
        | unbounded entries => exact .inl (by rw [Cache.snd_get?_unbounded, ← hcache])
        | bounded store state => exact .inr ⟨store, state, hcache⟩

/-- A compile that fails adds no entry. -/
theorem compileFile_of_error (hlawful : s.Lawful Held) {path : Path} {e : CompileError}
    (h : (s.compileFile path options).1 = .error e) :
    s.KeepsNoMore Held (s.compileFile path options).2 :=
  cached_of_error hlawful h

/-- What is rendered depends on the artifact and not on its number. -/
lemma finish_eq (s : Session σ) (data : Value) (compiled : Except CompileError Numbered) :
    s.finish data compiled =
      ((compiled.map Numbered.artifact).mapError RenderError.compile).bind fun artifact =>
        (artifact.render s.evaluator s.fuel data).mapError .ofHalt := by
  cases compiled <;> rfl

/-- Rendering fails to compile only if compiling fails. -/
lemma renderFile_of_error (hlawful : s.Lawful Held) {path : Path} {data : Value} {e : CompileError}
    (h : (s.renderFile path data options).1 = .error (.compile e)) :
    s.KeepsNoMore Held (s.renderFile path data options).2 := by
  have hfinish : (s.compileFile path options).2.finish data (s.compileFile path options).1 =
      .error (.compile e) := h
  cases hcompiled : (s.compileFile path options).1 with
  | error e' => exact compileFile_of_error hlawful hcompiled
  | ok made =>
    rw [hcompiled, finish] at hfinish
    -- a template that was compiled fails otherwise
    cases hrendered : made.artifact.render _ _ data with
    | ok rendered => rw [hrendered] at hfinish; cases hfinish
    | error halt => rw [hrendered] at hfinish; cases halt <;> cases hfinish

/-! ## Requests, one after the other -/

/-- A session and another without a cache, which may keep something out of date only if the
templates may have changed since the cache was cleared. -/
structure Shadows (Held : σ → Path.Key → Numbered → Prop) (options : Options) (outdated : Bool)
    (s t : Session σ) : Prop where
  /-- The sessions differ at most in what they keep. -/
  alike : s.Alike t
  /-- The other session keeps nothing. -/
  cache_eq_none : t.cache = none
  /-- The cache only drops entries. -/
  lawful : s.Lawful Held
  /-- What is kept may be out of date only if the templates may have changed. -/
  upToDate : outdated = false → s.UpToDate Held options

variable {outdated : Bool}

/-- A template is had alike from both sessions. -/
lemma Shadows.compileFile (h : Shadows Held options outdated s t) (hcurrent : outdated = false)
    (path : Path) :
    (s.compileFile path options).1.map Numbered.artifact =
        (t.compileFile path options).1.map Numbered.artifact ∧
      Shadows Held options outdated (s.compileFile path options).2
        (t.compileFile path options).2 := by
  have hs := compileFile_serves h.lawful (h.upToDate hcurrent) path
  have hlawful : t.Lawful Held := .of_none h.cache_eq_none
  have hempty : t.UpToDate Held options := .of_none h.cache_eq_none
  have ht := compileFile_serves hlawful hempty path
  refine ⟨?_, ?_, ht.cache_eq_none h.cache_eq_none, hs.lawful, fun _ => hs.upToDate⟩
  · rw [hs.artifact, ht.artifact, h.alike.workspace]
  · exact ⟨hs.alike.workspace.symm.trans (h.alike.workspace.trans ht.alike.workspace),
      hs.alike.evaluator.symm.trans (h.alike.evaluator.trans ht.alike.evaluator),
      hs.alike.fuel.symm.trans (h.alike.fuel.trans ht.alike.fuel)⟩

/-- **A session with a cache answers a request as one without,** unless a template is asked for that
may have changed since the cache was cleared.

**Proof sketch.** The cases of the request.  To compile or to render asks for a template, which is
up to date.  Clearing leaves nothing in the cache, so all of it is up to date, and a write makes
everything outdated, of which nothing is said. -/
theorem respond_shadows (h : Shadows Held options outdated s t) {request : Request}
    (hrequest : (outdated && request.asks) = false) :
    (s.respond options request).1 = (t.respond options request).1 ∧
      Shadows Held options (request.outdates outdated) (s.respond options request).2
        (t.respond options request).2 := by
  have hcompile := fun hcurrent => h.compileFile hcurrent
  obtain ⟨⟨hworkspace, hevaluator, hfuel⟩, hnone, hlawful, hupToDate⟩ := h
  cases request with
  | compileFile path =>
    obtain ⟨hresult, hafter⟩ := hcompile (by simpa [Request.asks] using hrequest) path
    exact ⟨congrArg Answer.compiled hresult, hafter⟩
  | renderFile path data =>
    obtain ⟨hresult, hafter⟩ := hcompile (by simpa [Request.asks] using hrequest) path
    refine ⟨congrArg Answer.rendered ?_, hafter⟩
    show (s.compileFile path options).2.finish data (s.compileFile path options).1 =
      (t.compileFile path options).2.finish data (t.compileFile path options).1
    rw [finish_eq, finish_eq, hresult, hafter.alike.evaluator, hafter.alike.fuel]
  | clearCache =>
    refine ⟨rfl, ⟨hworkspace, hevaluator, hfuel⟩, ?_, ?_, fun _ => ?_⟩
    · show t.cache.map Cache.clear = none
      rw [hnone]
      rfl
    · intro cache hcache
      obtain ⟨before, hbefore, rfl⟩ := Option.map_eq_some_iff.1 hcache
      exact (hlawful before hbefore).clear
    · intro cache hcache path made hheld
      obtain ⟨before, hbefore, rfl⟩ := Option.map_eq_some_iff.1 hcache
      exact absurd hheld ((hlawful before hbefore).not_holds_clear _ _)
  | write library =>
    exact ⟨rfl, ⟨congrArg (fun w : Workspace => { w with library }) hworkspace, hevaluator, hfuel⟩,
      hnone, hlawful, nofun⟩

/-- The answers to a request and to those behind it. -/
lemma answers_cons (s : Session σ) (options : Options) (request : Request) (rest : List Request) :
    s.answers options (request :: rest) =
      (s.respond options request).1 :: (s.respond options request).2.answers options rest := rfl

/-- A session with a cache answers requests as one without, if the cache is cleared between every
change of the templates and the next request for one. -/
lemma Shadows.answers {requests : List Request} (h : Shadows Held options outdated s t)
    (hcleared : Request.cleared outdated requests = true) :
    s.answers options requests = t.answers options requests := by
  induction requests generalizing outdated s t with
  | nil => rfl
  | cons request rest ih =>
    rw [Request.cleared, Bool.and_eq_true, Bool.not_eq_true'] at hcleared
    obtain ⟨hanswer, hafter⟩ := respond_shadows h hcleared.1
    rw [answers_cons, answers_cons, hanswer, ih hafter hcleared.2]

/-- **Caching is not seen in the answers.**  Let the cache of a session be cleared between every
change of the templates and the next request for one.  Then the session answers every request as it
does without a cache, whether the cache has no limit or any store of any capacity, as long as the
store only ever drops entries of its own accord.  A compile that fails adds no entry.

**Proof sketch.** As long as the templates do not change, everything in the cache is what compiling
would make now (`compileFile_serves`).  When they change the cache may be out of date, but it is
cleared before a template is asked for. -/
theorem answers_cached (s : Session σ) (options : Options) {cache : Cache σ Numbered}
    (hfresh : cache.Fresh Held) {requests : List Request}
    (hcleared : Request.cleared false requests = true) :
    (s.withCache (some cache)).answers options requests =
        (s.withCache none).answers options requests ∧
      ∀ t : Session σ, t.Lawful Held → ∀ (path : Path) (data : Value) (e : CompileError),
        ((t.compileFile path options).1 = .error e →
            t.KeepsNoMore Held (t.compileFile path options).2) ∧
          ((t.renderFile path data options).1 = .error (.compile e) →
            t.KeepsNoMore Held (t.renderFile path data options).2) := by
  have hstart : Shadows Held options false (s.withCache (some cache)) (s.withCache none) := by
    refine ⟨⟨rfl, rfl, rfl⟩, rfl, ?_, fun _ => ?_⟩
    · rintro _ ⟨⟩
      exact hfresh.lawful
    · rintro _ ⟨⟩ path made hheld
      exact absurd hheld (hfresh.not_holds _ _)
  exact ⟨hstart.answers hcleared,
    fun t hlawful path data e => ⟨compileFile_of_error hlawful, renderFile_of_error hlawful⟩⟩

/-- A template that is compiled, rendered by another spelling of its path, and rendered again after
the template that it includes has changed. -/
theorem answers_cached_rewritten :
    let templates : Templates :=
      .ofList [(⟨"/t/a.ejs"⟩, "<% include b %>"), (⟨"/t/b.ejs"⟩, "1")]
    let store : BoundedStore (BoundedStore.Listed Numbered) Numbered := .listed
    let cache : Cache _ Numbered := .bounded store (store.new 1)
    let s : Session (BoundedStore.Listed Numbered) :=
      { workspace := { library := templates.library, lookup := Registry.lookup {} } }
    let options : Options := { cacheArtifacts := true }
    let requests : List Request :=
      [.compileFile ⟨"/t/a.ejs"⟩, .renderFile ⟨"/t/./a.ejs"⟩ .null,
        .write (templates.add ⟨"/t/b.ejs"⟩ "2").library, .clearCache,
        .renderFile ⟨"/t/a.ejs"⟩ .null]
    Request.cleared false requests = true ∧
      cache.Fresh (fun state key made => (key, made) ∈ state.entries) ∧
      (s.withCache (some cache)).answers options requests =
        (s.withCache none).answers options requests := by
  intro templates store cache s options requests
  have hcleared : Request.cleared false requests = true := rfl
  have hfresh : cache.Fresh fun state key made => (key, made) ∈ state.entries :=
    .bounded BoundedStore.listed_keepsRecent.forgets 1
  exact ⟨hcleared, hfresh, (answers_cached s options hfresh hcleared).1⟩

end Session

end Stencil
