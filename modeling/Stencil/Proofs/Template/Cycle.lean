import Mathlib.Data.List.Chain
import Stencil.Proofs.Path.Normal
import Stencil.Proofs.Template.Including

/-!
# Cycles of includes

Compiling follows includes depth first.  A template that is being compiled is not entered again: an
include of such a template is an error, and the only source of it.  With finitely many templates,
and with components that spell the paths of their main templates in normal form, compiling comes to
an end because of that.  Any other spelling of such a path is not recognized on the chain, and then
the end need not come.

## Main definitions

* `Stencil.Workspace.IsFinite` — a workspace of finitely many templates, with components that give
  the paths of their main templates in normal spelling.
* `Stencil.Template.Enters` — a template that is compiled for an include in another.
* `Stencil.Template.Active` — the templates that compiling comes to be in the middle of.
* `Stencil.Template.Edge` — the includes that it comes to, from path to path.

## Main results

* `Stencil.Template.expand_withDepth`, `expand_ne_nestedTooDeep` — templates are not nested without
  end.
* `Stencil.Template.Active.isChain`, `Active.nodup` — a chain is a path along includes that meets no
  template twice.
* `Stencil.Workspace.compile_cycles` — compiling fails for a cycle exactly where it comes to an
  include of a template on the chain.

## Design

How deep templates may be nested is given with the workspace.  That compiling ends is said by this
bound: from the number of templates on, it does not matter what it is.
-/

set_option relaxedAutoImplicit false
set_option autoImplicit false

namespace Stencil

/-- **A workspace of finitely many templates.**  Its components give the paths of their main
templates in normal spelling, and a lookup that fails does not fail for how templates include each
other. -/
structure Workspace.IsFinite (w : Workspace) (templates : Templates) : Prop where
  /-- The templates are kept in memory. -/
  library : w.library = templates.library
  /-- A lookup fails for other reasons. -/
  lookup : ∀ {name e}, w.lookup name = .error e → e.isOfIncludes = false
  /-- The paths of main templates are in normal spelling. -/
  main : ∀ {name c}, w.lookup name = .ok c → c.mainTemplate.IsNormal

/-- A workspace in which templates may be nested to another depth. -/
def Workspace.withDepth (w : Workspace) (depth : Nat) : Workspace := { w with depth }

/-- The templates are as many, however deep they may be nested. -/
lemma Workspace.IsFinite.withDepth {w : Workspace} {templates : Templates}
    (hw : w.IsFinite templates) (depth : Nat) : (w.withDepth depth).IsFinite templates :=
  ⟨hw.library, hw.lookup, hw.main⟩

namespace Template

variable {w : Workspace} {templates : Templates} {root t : Template} {entered : List Path.Normal}
  {path : Path} {component : Option Component}

/-! ## Entering -/

/-- A template that is compiled for an include in another: it is not on the chain, can be read, and
is not nested too deep. -/
def Enters (w : Workspace) (t : Template) (path : Path) (inner : Template) : Prop :=
  ∃ component text, t.Includes w path component ∧ t.isActive path = false ∧
    w.library.read path = .ok text ∧ t.chain.length < w.depth ∧
    inner = t.including path component text

/-- A template that is entered goes on the chain. -/
lemma Enters.chain_eq {inner : Template} (h : Enters w t path inner) :
    inner.chain = t.chain ++ [path.toNormal] := by
  obtain ⟨component, text, -, -, -, -, rfl⟩ := h
  rfl

/-- A template fails as one that is entered from it. -/
lemma Enters.expand_eq_error {inner : Template} {e : CompileError} (h : Enters w t path inner)
    (he : expand w inner = .error e) : expand w t = .error e := by
  obtain ⟨component, text, hincludes, hnew, hread, hdepth, rfl⟩ := h
  exact hincludes.expand_eq_error ((nested_of_read hnew hread hdepth component).trans he)

/-- Entering a template leaves less room for others. -/
lemma Enters.room_lt {inner : Template} (h : Enters w t path inner) :
    w.depth - inner.chain.length < w.depth - t.chain.length := by
  obtain ⟨component, text, -, -, -, hdepth, rfl⟩ := h
  exact room_including hdepth _ component text

/-- Templates are not entered without end. -/
theorem enters_wellFounded (w : Workspace) :
    WellFounded fun inner outer => ∃ path, Enters w outer path inner :=
  Subrelation.wf (fun ⟨_, h⟩ => h.room_lt)
    (measure fun t : Template => w.depth - t.chain.length).wf

/-! ## Active templates -/

/-- **The templates that compiling comes to be in the middle of,** each with the paths of those that
were entered on the way to it. -/
inductive Active (w : Workspace) (root : Template) : List Path.Normal → Template → Prop
  /-- The template that compiling begins with. -/
  | root : Active w root [] root
  /-- A template that is entered from another. -/
  | enter {entered : List Path.Normal} {t inner : Template} {path : Path} :
    Active w root entered t → Enters w t path inner →
    Active w root (entered ++ [path.toNormal]) inner

namespace Active

/-- The chain of an active template holds what was entered on the way to it. -/
lemma chain_eq (h : Active w root entered t) : t.chain = root.chain ++ entered := by
  induction h with
  | root => rw [List.append_nil]
  | enter _ henters ih => rw [henters.chain_eq, ih, List.append_assoc]

/-- A chain is made of normal forms of paths. -/
lemma proper (hroot : ∀ n ∈ root.chain, n.Proper) (h : Active w root entered t) :
    ∀ n ∈ t.chain, n.Proper := by
  induction h with
  | root => exact hroot
  | enter _ henters ih =>
    intro n hn
    rw [henters.chain_eq, List.mem_append, List.mem_singleton] at hn
    obtain hold | rfl := hn
    · exact ih n hold
    · exact Path.proper_toNormal _

/-- Failures go all the way up. -/
lemma expand_eq_error {e : CompileError} (h : Active w root entered t)
    (he : expand w t = .error e) : expand w root = .error e := by
  induction h with
  | root => exact he
  | enter _ henters ih => exact ih (henters.expand_eq_error he)

/-- A cycle is found at an active template.

**Proof sketch.** Induction on how much deeper templates may be nested.  The include that fails
leads back to the chain, or enters a template that fails for the cycle. -/
lemma exists_cyclic (hlookup : ∀ {name e}, w.lookup name = .error e → e.isOfIncludes = false)
    {path : Path} {chain : List Path} (h : Active w root entered t)
    (he : expand w t = .error (.cyclicInclude path chain)) :
    ∃ entered' t' target component, Active w root entered' t' ∧ t'.Includes w target component ∧
      t'.isActive target = true ∧ t'.cyclic target = .cyclicInclude path chain := by
  induction hn : w.depth - t.chain.length using Nat.strong_induction_on generalizing entered t with
  | _ n ih =>
    obtain ⟨target, component, hincludes, hnested⟩ := exists_includes hlookup rfl he
    rw [nested] at hnested
    split at hnested
    · next hactive =>
      cases hnested
      exact ⟨entered, t, _, component, h, hincludes, hactive, rfl⟩
    · next hnew =>
      cases hread : w.library.read target with
      | error reason =>
        rw [hread] at hnested
        cases hnested
      | ok text =>
        simp only [hread] at hnested
        split at hnested
        · next hdepth =>
          have henters : Enters w t target (t.including target component text) :=
            ⟨component, text, hincludes, Bool.not_eq_true _ ▸ hnew, hread, hdepth, rfl⟩
          exact ih _ (hn ▸ room_including hdepth _ component text) (h.enter henters) hnested rfl
        · cases hnested

end Active

/-! ## Chains -/

/-- The includes that compiling comes to, from the path of the template they are in. -/
def Edge (w : Workspace) (root : Template) (source target : Path.Normal) : Prop :=
  ∃ entered t path component, Active w root entered t ∧ t.chain.getLast? = some source ∧
    t.Includes w path component ∧ path.toNormal = target

/-- An include goes on from the end of the chain. -/
lemma Active.isChain_append (h : Active w root entered t) (hchain : t.chain.IsChain (Edge w root))
    (hincludes : t.Includes w path component) :
    (t.chain ++ [path.toNormal]).IsChain (Edge w root) := by
  refine List.IsChain.append hchain (List.isChain_singleton _) fun a ha b hb => ?_
  cases hb
  exact ⟨entered, t, path, component, h, ha, hincludes, rfl⟩

/-- **A chain goes along includes.** -/
lemma Active.isChain (hroot : root.chain.length ≤ 1) (h : Active w root entered t) :
    t.chain.IsChain (Edge w root) := by
  induction h with
  | root =>
    match hc : root.chain, hroot with
    | [], _ => exact .nil
    | [path], _ => exact .singleton path
  | enter h henters ih =>
    rw [henters.chain_eq]
    obtain ⟨component, text, hincludes, -, -, -, -⟩ := henters
    exact h.isChain_append ih hincludes

/-- An include is a cycle exactly if it leads to the chain, however often the template it leads
to was included before.

**Proof sketch.** A cycle that is found further in has a longer chain. -/
lemma nested_eq_cyclic_iff (hlookup : ∀ {name e}, w.lookup name = .error e → e.isOfIncludes = false)
    (path : Path) (component : Option Component) :
    t.nested w path component = .error (t.cyclic path) ↔ t.isActive path = true := by
  refine ⟨fun h => ?_, fun h => nested_of_isActive h component⟩
  by_contra hnew
  rw [nested, if_neg hnew] at h
  cases hread : w.library.read path with
  | error reason =>
    rw [hread] at h
    cases h
  | ok text =>
    simp only [hread] at h
    split at h
    · obtain ⟨entered, t', target, _, hactive, -, -, hcyclic⟩ :=
        Active.exists_cyclic hlookup (Active.root (w := w)) h
      have hchain : t'.chain = t.chain ++ [path.toNormal] ++ entered := hactive.chain_eq
      -- Both errors name their chains, and these have different lengths.
      have hlength := congrArg List.length (CompileError.cyclicInclude.inj hcyclic).2
      simp only [hchain, List.length_map, List.length_append, List.length_singleton] at hlength
      omega
    · cases h

/-! ## Finitely many templates -/

/-- The templates that directives include have paths in normal spelling. -/
lemma isNormal_of_target? (hw : w.IsFinite templates) {d : Directive}
    (h : t.target? w d = some (path, component)) : path.IsNormal := by
  cases d with
  | includeFile reference params =>
    obtain ⟨current, -, htarget⟩ := Option.map_eq_some_iff.1 h
    cases htarget
    rw [hw.library]
    exact Path.isNormal_normalize _
  | includeComponent name params =>
    simp only [target?] at h
    split at h
    · next c hlookup =>
      cases h
      exact hw.main hlookup
    · cases h
  | _ => cases h

/-- A path in normal spelling is that of a template on the chain exactly if its normal form is on
the chain. -/
lemma isActive_iff (hproper : ∀ n ∈ t.chain, n.Proper) (hpath : path.IsNormal) :
    t.isActive path = true ↔ path.toNormal ∈ t.chain := by
  rw [isActive, List.any_eq_true]
  constructor
  · rintro ⟨n, hn, hsame⟩
    exact (hpath.same_iff (hproper n hn)).1 hsame ▸ hn
  · intro hmem
    exact ⟨_, hmem, (hpath.same_iff (Path.proper_toNormal path)).2 rfl⟩

/-- A template from which there is room for all templates that are not on the chain. -/
structure Fits (templates : Templates) (depth : Nat) (t : Template) : Prop where
  /-- The chain is made of normal forms of paths. -/
  proper : ∀ n ∈ t.chain, n.Proper
  /-- Templates may be nested that deep. -/
  room : templates.unvisited t.chain + t.chain.length ≤ depth

namespace Fits

variable {depth : Nat} {text : String}

/-- From a template with room enough, another can be entered. -/
lemma length_lt (h : t.Fits templates depth) (hread : templates.read path = .ok text)
    (hnew : path.toNormal ∉ t.chain) : t.chain.length < depth := by
  have hroom := h.room
  have hless := Templates.unvisited_lt hread hnew
  omega

/-- And there is room enough from that one. -/
lemma including (h : t.Fits templates depth) (hread : templates.read path = .ok text)
    (hnew : path.toNormal ∉ t.chain) (component : Option Component) :
    (t.including path component text).Fits templates depth where
  proper := by
    intro n hn
    rcases List.mem_append.1 hn with hold | hlast
    · exact h.proper n hold
    · exact List.mem_singleton.1 hlast ▸ Path.proper_toNormal path
  room := by
    have hroom := h.room
    have hless := Templates.unvisited_lt hread hnew
    simp only [Template.including, List.length_append, List.length_singleton]
    omega

end Fits

/-- A template that can be read and is not on the chain is compiled for the include. -/
lemma nested_of_fits (hw : w.IsFinite templates) (hfits : t.Fits templates w.depth) {text : String}
    (hactive : t.isActive path = false) (hread : templates.read path = .ok text)
    (hnew : path.toNormal ∉ t.chain) :
    t.nested w path component = expand w (t.including path component text) :=
  nested_of_read hactive (hw.library ▸ hread) (hfits.length_lt hread hnew) component

/-- **Templates are not nested too deep,** if there is room for all of them.

**Proof sketch.** Induction on the number of templates that are not on the chain.  An include that
is nested too deep is inside a template that was entered, and that one is new on the chain. -/
theorem expand_ne_nestedTooDeep (hw : w.IsFinite templates) (hfits : t.Fits templates w.depth) :
    expand w t ≠ .error .nestedTooDeep := by
  intro he
  induction hn : templates.unvisited t.chain using Nat.strong_induction_on generalizing t with
  | _ n ih =>
    obtain ⟨target, component, ⟨d, p, -, htarget⟩, hnested⟩ := exists_includes hw.lookup rfl he
    cases hactive : t.isActive target with
    | true =>
      rw [nested_of_isActive hactive] at hnested
      cases hnested
    | false =>
      have hnew : target.toNormal ∉ t.chain := by
        rw [← isActive_iff hfits.proper (isNormal_of_target? hw htarget), hactive]
        exact Bool.false_ne_true
      cases hread : templates.read target with
      | error reason =>
        have hread' : w.library.read target = .error reason := hw.library ▸ hread
        simp [nested, hactive, hread'] at hnested
      | ok text =>
        rw [nested_of_fits hw hfits hactive hread hnew] at hnested
        exact ih _ (hn ▸ Templates.unvisited_lt hread hnew) (hfits.including hread hnew component)
          hnested rfl

/-- **How deep templates may be nested does not matter,** if there is room for all of them.

**Proof sketch.** Induction on the number of templates that are not on the chain.  A directive
depends on the template that it includes, and that one is the same by induction. -/
theorem expand_withDepth (hw : w.IsFinite templates) (hfits : t.Fits templates w.depth)
    {depth : Nat} (hfits' : t.Fits templates depth) :
    expand (w.withDepth depth) t = expand w t := by
  induction hn : templates.unvisited t.chain using Nat.strong_induction_on generalizing t with
  | _ n ih =>
    have hfollow : t.follow (w.withDepth depth) (t.nested (w.withDepth depth)) =
        t.follow w (t.nested w) := by
      funext d p
      refine follow_congr p fun {path component} htarget => ?_
      have htarget' : t.target? w d = some (path, component) := htarget
      cases hactive : t.isActive path with
      | true => rw [nested_of_isActive hactive, nested_of_isActive hactive]
      | false =>
        have hnew : path.toNormal ∉ t.chain := by
          rw [← isActive_iff hfits.proper (isNormal_of_target? hw htarget'), hactive]
          exact Bool.false_ne_true
        cases hread : templates.read path with
        | error reason =>
          have hread' : w.library.read path = .error reason := hw.library ▸ hread
          simp [nested, hactive, hread', Workspace.withDepth]
        | ok text =>
          rw [nested_of_fits hw hfits hactive hread hnew,
            nested_of_fits (hw.withDepth depth) hfits' hactive hread hnew]
          exact ih _ (hn ▸ Templates.unvisited_lt hread hnew)
            (hfits.including hread hnew component) (hfits'.including hread hnew component) rfl
    rw [expand_eq, expand_eq, hfollow]

namespace Active

/-- An active template has room enough, if the one that compiling begins with has. -/
lemma fits (hw : w.IsFinite templates) (hroot : root.Fits templates w.depth)
    (h : Active w root entered t) : t.Fits templates w.depth := by
  induction h with
  | root => exact hroot
  | enter h henters ih =>
    obtain ⟨component, text, ⟨d, p, -, htarget⟩, hactive, hread, -, rfl⟩ := henters
    rw [hw.library] at hread
    refine ih.including hread ?_ component
    rw [← isActive_iff ih.proper (isNormal_of_target? hw htarget), hactive]
    exact Bool.false_ne_true

/-- **No template is twice on a chain.** -/
lemma nodup (hw : w.IsFinite templates) (hproper : ∀ n ∈ root.chain, n.Proper)
    (hroot : root.chain.Nodup) (h : Active w root entered t) : t.chain.Nodup := by
  induction h with
  | root => exact hroot
  | enter h henters ih =>
    rw [henters.chain_eq]
    obtain ⟨component, text, ⟨d, p, -, htarget⟩, hactive, -, -, rfl⟩ := henters
    refine List.nodup_append.2 ⟨ih, List.pairwise_singleton _ _, fun a ha b hb => ?_⟩
    rw [List.mem_singleton] at hb
    rintro rfl
    rw [hb, ← isActive_iff (h.proper hproper) (isNormal_of_target? hw htarget), hactive] at ha
    cases ha

/-- No more templates are entered than there are. -/
lemma length_add_unvisited_le (hw : w.IsFinite templates) (hproper : ∀ n ∈ root.chain, n.Proper)
    (h : Active w root entered t) :
    entered.length + templates.unvisited t.chain ≤ templates.unvisited root.chain := by
  induction h with
  | root => simp
  | enter h henters ih =>
    rw [henters.chain_eq, List.length_append, List.length_singleton]
    obtain ⟨component, text, ⟨d, p, -, htarget⟩, hactive, hread, -, rfl⟩ := henters
    rw [hw.library] at hread
    have hless := Templates.unvisited_lt hread fun hmem => by
      rw [← isActive_iff (h.proper hproper) (isNormal_of_target? hw htarget), hactive] at hmem
      cases hmem
    omega

end Active

end Template

/-! ## Compiling -/

/-- A registry fails for a name that is unknown, and that is not how templates include each
other. -/
lemma Registry.isOfIncludes_of_lookup {registry : Registry} {name : String} {e : CompileError}
    (h : registry.lookup name = .error e) : e.isOfIncludes = false := by
  unfold Registry.lookup at h
  split at h <;> cases h
  rfl

/-- Components that are kept in directories give the paths of their main templates in normal
spelling. -/
lemma Registry.isNormal_of_lookup_directories (directories : List Component.Directory)
    {name : String} {c : Component}
    (h : (directories.foldl (fun r d => Registry.register r d.component) {}).lookup name = .ok c) :
    c.mainTemplate.IsNormal := by
  induction directories using List.reverseRecOn with
  | nil => cases h
  | append_singleton directories d ih =>
    rw [List.foldl_append, List.foldl_cons, List.foldl_nil] at h
    by_cases hname : name = d.component.name
    · subst hname
      rw [Registry.lookup, Registry.find?_register] at h
      cases h
      exact Path.isNormal_normalize _
    · rw [Registry.lookup, Registry.find?, Registry.register,
        Fields.get?_insert_other hname] at h
      exact ih h

/-- **Compiling ends, and finds exactly the cycles of includes.**  Let the templates be finitely
many, and let every component give the path of its main template in normal spelling.  Then how deep
templates may be nested does not matter, from the number of templates on: not more of them are
entered at a time, and no template is twice on a chain.  The first failure is a cycle just if
compiling comes to an include of a template that is on the chain; it then names that template, and
the chain with the template again behind it.  Such a chain goes along includes.  An include of any
other template never fails as a cycle itself.

**Proof sketch.** The failure of a nested template is that of all templates around it, and only an
include of a template on the chain begins one that is a cycle. -/
theorem Workspace.compile_cycles (templates : Templates) (registry : Registry)
    (hmain : ∀ name c, registry.lookup name = .ok c → c.mainTemplate.IsNormal) {depth : Nat}
    (hdepth : templates.entries.length < depth) (options : Options) (text : String) :
    let w : Workspace := { library := templates.library, lookup := registry.lookup, depth }
    let root := Template.ofText options text
    ((w.withDepth (templates.entries.length + 1)).compile options text = w.compile options text ∧
        w.compile options text ≠ .error .nestedTooDeep) ∧
      (∀ entered t, Template.Active w root entered t →
        t.chain = (options.sourcePath.map Path.toNormal).toList ++ entered ∧ t.chain.Nodup ∧
          entered.length ≤ templates.entries.length) ∧
      (∀ path chain, w.compile options text = .error (.cyclicInclude path chain) ↔
        ∃ entered t component, Template.Active w root entered t ∧ t.Includes w path component ∧
          path.toNormal ∈ t.chain ∧ chain = t.chain.map Path.Normal.path ++ [path]) ∧
      ∀ entered t path component, Template.Active w root entered t →
        t.Includes w path component →
        (t.chain ++ [path.toNormal]).IsChain (Template.Edge w root) ∧
          (t.nested w path component = .error (t.cyclic path) ↔ path.toNormal ∈ t.chain) := by
  intro w root
  have hw : w.IsFinite templates := ⟨rfl, Registry.isOfIncludes_of_lookup, fun h => hmain _ _ h⟩
  have hlength : root.chain.length ≤ 1 := by
    show (options.sourcePath.map Path.toNormal).toList.length ≤ 1
    cases options.sourcePath <;> simp
  have hnodup : root.chain.Nodup := by
    show (options.sourcePath.map Path.toNormal).toList.Nodup
    cases options.sourcePath <;> simp
  have hproper : ∀ n ∈ root.chain, n.Proper := by
    show ∀ n ∈ (options.sourcePath.map Path.toNormal).toList, n.Proper
    intro n hn
    obtain ⟨path, -, rfl⟩ := Option.map_eq_some_iff.1 (Option.mem_toList.1 hn)
    exact Path.proper_toNormal path
  have hunvisited : templates.unvisited root.chain ≤ templates.entries.length :=
    (List.length_filter_le _ _).trans (List.length_map _).le
  have hfits : root.Fits templates (templates.entries.length + 1) := ⟨hproper, by omega⟩
  have hfits' : root.Fits templates w.depth := ⟨hproper, hfits.room.trans hdepth⟩
  have hmem {entered : List Path.Normal} {t : Template} {path : Path}
      {component : Option Component} (h : Template.Active w root entered t)
      (hincludes : t.Includes w path component) :
      t.isActive path = true ↔ path.toNormal ∈ t.chain := by
    obtain ⟨d, p, -, htarget⟩ := hincludes
    exact Template.isActive_iff (h.proper hproper) (Template.isNormal_of_target? hw htarget)
  refine ⟨⟨Template.expand_withDepth hw hfits' hfits, Template.expand_ne_nestedTooDeep hw hfits'⟩,
    fun entered t h => ⟨h.chain_eq, h.nodup hw hproper hnodup, ?_⟩,
    fun path chain => ⟨fun h => ?_, ?_⟩, fun entered t path component h hincludes =>
      ⟨h.isChain_append (h.isChain hlength) hincludes, ?_⟩⟩
  · have hbound := h.length_add_unvisited_le hw hproper
    omega
  · obtain ⟨entered, t, target, component, hactive, hincludes, hon, hcyclic⟩ :=
      Template.Active.exists_cyclic hw.lookup .root h
    cases hcyclic
    exact ⟨entered, t, component, hactive, hincludes, (hmem hactive hincludes).1 hon, rfl⟩
  · rintro ⟨entered, t, component, hactive, hincludes, hon, rfl⟩
    refine hactive.expand_eq_error (hincludes.expand_eq_error ?_)
    exact Template.nested_of_isActive ((hmem hactive hincludes).2 hon) component
  · rw [Template.nested_eq_cyclic_iff hw.lookup, hmem h hincludes]

/-- Two templates that include each other, and a component in a directory whose main template one of
them is. -/
theorem Workspace.compile_cycles_directory :
    let templates : Templates :=
      .ofList [(⟨"/t/a.ejs"⟩, "<% includeModule b %>"), (⟨"/t/b.ejs"⟩, "<% include a %>")]
    let directory : Component.Directory := { name := "b", root := ⟨"/t"⟩, main := "./b.ejs" }
    let registry := Registry.register {} directory.component
    let w : Workspace := { library := templates.library, lookup := registry.lookup, depth := 9 }
    let options : Options := { sourcePath := some ⟨"/t/a.ejs"⟩ }
    (∀ name c, registry.lookup name = .ok c → c.mainTemplate.IsNormal) ∧
      templates.entries.length < 9 ∧
      (w.withDepth 3).compile options "<% includeModule b %>" =
        w.compile options "<% includeModule b %>" ∧
      w.compile options "<% includeModule b %>" ≠ .error .nestedTooDeep := by
  intro templates directory registry w options
  have hmain : ∀ name c, registry.lookup name = .ok c → c.mainTemplate.IsNormal :=
    fun _ _ h => Registry.isNormal_of_lookup_directories [directory] h
  have hdepth : templates.entries.length < 9 := by decide
  exact ⟨hmain, hdepth, (compile_cycles templates registry hmain hdepth options _).1⟩

/-! ## Other spellings -/

/-- A text that includes a component and holds nothing else. -/
def selfIncluding : String := "<% includeModule nav %>"

/-- Compiling such a text comes to the include. -/
lemma Template.includes_selfIncluding {w : Workspace} {t : Template} {c : Component}
    (hlookup : w.lookup "nav" = .ok c) (htext : t.text = selfIncluding)
    (hdelimiter : t.options.delimiter = '%') : t.Includes w c.mainTemplate (some c) := by
  let segments : List Segment :=
    [⟨"<%", 0, some .openCode⟩, ⟨" includeModule nav ", 2, none⟩, ⟨"%>", 21, some .close⟩]
  have hsegments : Segment.splitChecked t.options.delimiter t.text = .ok segments := by
    rw [htext, hdelimiter]
    decide +kernel
  refine ⟨.includeComponent "nav" none, _, ⟨segments, hsegments,
    .later rfl rfl (.here (by decide +kernel))⟩, ?_⟩
  rw [target?, hlookup]

/-- A component whose main template includes the component again, by a path that is not in normal
spelling. -/
def roundabout : Component where
  name := "nav"
  mainTemplate := ⟨"/c/x/../nav.ejs"⟩
  resolveResource := Path.mk

/-- The same component, by a path in normal spelling. -/
def straight : Component.Directory := { name := "nav", root := ⟨"/c"⟩, main := "nav.ejs" }

/-- The template of both components. -/
def selfIncludingTemplates : Templates := .ofList [(⟨"/c/nav.ejs"⟩, selfIncluding)]

/-- A main template by a path that is not in normal spelling is entered again and again.

**Proof sketch.** The chain holds the normal form of the path, which no path in another spelling is
recognized by.  So the template is entered from itself, as long as there is room. -/
lemma Template.expand_roundabout {w : Workspace} (hlookup : w.lookup "nav" = .ok roundabout)
    (hlibrary : w.library = selfIncludingTemplates.library) {t : Template}
    (htext : t.text = selfIncluding) (hdelimiter : t.options.delimiter = '%')
    (htrim : t.options.trimWhitespace = false)
    (hchain : ∀ n ∈ t.chain, n = (Path.mk "/c/nav.ejs").toNormal) :
    expand w t = .error .nestedTooDeep := by
  refine (includes_selfIncluding hlookup htext hdelimiter).expand_eq_error ?_
  have hactive : t.isActive roundabout.mainTemplate = false := by
    rw [isActive, List.any_eq_false]
    intro n hn
    rw [hchain n hn]
    decide
  have hread : w.library.read roundabout.mainTemplate = .ok selfIncluding := by
    rw [hlibrary]
    decide
  by_cases hdepth : t.chain.length < w.depth
  · rw [nested_of_read hactive hread hdepth]
    have hroom := room_including hdepth roundabout.mainTemplate (some roundabout) selfIncluding
    refine expand_roundabout hlookup hlibrary ?_ hdelimiter htrim fun n hn => ?_
    · show Whitespace.normalize t.options.delimiter t.options.trimWhitespace selfIncluding = _
      rw [hdelimiter, htrim]
      decide +kernel
    · rcases List.mem_append.1 hn with hold | hlast
      · exact hchain n hold
      · rw [List.mem_singleton.1 hlast]
        decide
  · simp only [nested, hactive, hread, Bool.false_eq_true, if_false, if_neg hdepth]
termination_by w.depth - t.chain.length

/-- Compiling does not end for every registry, and a chain does not name a template without a path:
a main template by a path that is not in normal spelling is entered without end, and a text without
a path that includes a component is not on the chain of a cycle within the component. -/
theorem Workspace.compile_cycles_selfIncluding :
    (¬ ∃ depth, Workspace.compile
        { library := selfIncludingTemplates.library
          lookup := (Registry.register {} roundabout).lookup
          depth := depth } {} selfIncluding ≠ .error .nestedTooDeep) ∧
      Workspace.compile
        { library := selfIncludingTemplates.library
          lookup := (Registry.register {} straight.component).lookup } {} selfIncluding =
        .error (.cyclicInclude ⟨"/c/nav.ejs"⟩ [⟨"/c/nav.ejs"⟩, ⟨"/c/nav.ejs"⟩]) := by
  constructor
  · rintro ⟨depth, h⟩
    refine h (Template.expand_roundabout rfl rfl ?_ rfl rfl nofun)
    decide +kernel
  · set w : Workspace := { library := selfIncludingTemplates.library
                           lookup := (Registry.register {} straight.component).lookup }
    let root := Template.ofText {} selfIncluding
    let path : Path := straight.component.mainTemplate
    let t := root.including path (some straight.component) selfIncluding
    have hroot : root.text = selfIncluding := by decide +kernel
    have ht : t.text = selfIncluding := by decide +kernel
    have hcyclic : Template.expand w t = .error (t.cyclic path) :=
      (Template.includes_selfIncluding (c := straight.component) rfl ht rfl).expand_eq_error
        (Template.nested_of_isActive (by decide) _)
    have henters : Template.Enters w root path t :=
      ⟨_, _, Template.includes_selfIncluding (c := straight.component) rfl hroot rfl, rfl,
        by decide, by decide, rfl⟩
    have herror : t.cyclic path =
        .cyclicInclude ⟨"/c/nav.ejs"⟩ [⟨"/c/nav.ejs"⟩, ⟨"/c/nav.ejs"⟩] := by decide
    rw [Workspace.compile, ← herror]
    exact henters.expand_eq_error hcyclic

end Stencil
