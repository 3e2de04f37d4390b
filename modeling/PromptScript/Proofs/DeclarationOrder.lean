import Mathlib.Data.List.Induction
import Mathlib.Data.List.Nodup
import PromptScript.Proofs.Influence
import PromptScript.Proofs.Turns

/-!
# Proofs.DeclarationOrder

The order of declarations where the compiler accepts more than one. At its turn a value finds what
it will find in the end, since it refers to nothing that is declared below it (`find?_at_turn`). So
two runs of the same declarations in two orders are compared by their ends: along the one order,
each declared text is the same in both (`rendered_eq_above`), and then each turn of the one run
comes to the same as the turn of the other that has the same declaration (`rendered_eq_of_content`).
-/

namespace PromptScript

open SymbolTable

/-- What a declaration says, on whatever line it stands. -/
def Declaration.content (d : Declaration) : String × Value := (d.name, d.value)

/-- The other document has the same declarations in some order, the same agent and the same body. -/
structure Document.Reordered (d d' : Document) : Prop where
  declarations : (d.header.declarations.map Declaration.content).Perm
    (d'.header.declarations.map Declaration.content)
  agent : d'.header.agent = d.header.agent
  body : d'.body = d.body

namespace Document.Reordered

variable {d d' : Document}

theorem symm (h : d.Reordered d') : d'.Reordered d :=
  ⟨h.declarations.symm, h.agent.symm, h.body.symm⟩

theorem declared_iff (h : d.Reordered d') (name : String) :
    name ∈ declaredNames d.header.declarations ↔ name ∈ declaredNames d'.header.declarations := by
  have hnames : ∀ ds : List Declaration,
      declaredNames ds = (ds.map Declaration.content).map fun c => canonicalName c.1 := by
    intro ds
    rw [List.map_map]
    rfl
  rw [hnames, hnames]
  exact (h.declarations.map _).mem_iff

theorem exists_content (h : d.Reordered d') {decl : Declaration}
    (hdecl : decl ∈ d.header.declarations) :
    ∃ decl' ∈ d'.header.declarations, decl'.content = decl.content :=
  List.mem_map.1 (h.declarations.mem_iff.1 (List.mem_map_of_mem hdecl))

end Document.Reordered

/-! ## One run -/

/-- A declared name that a value refers to is declared above it. -/
theorem WellScoped.declared_above {h : Header} {body : List Char} (hscoped : WellScoped h body)
    {before after : List Declaration} {d : Declaration}
    (heq : h.declarations = before ++ d :: after) {name : String} (hrefers : d.value.RefersTo name)
    (hname : name ∈ declaredNames h.declarations) : name ∈ declaredNames before := by
  obtain ⟨text, htext, o, ho, rfl⟩ := hrefers
  have hchecked : Refers (Document.knownNames h) o.reference := by
    intro _
    exact List.mem_append_right _ hname
  have habove := hscoped.above before d after heq text (Value.mem_texts_iff.1 htext) o ho hchecked
  rcases List.mem_append.1 habove with hbuiltIn | habove
  · obtain ⟨decl, hdecl, hfresh⟩ := List.mem_map.1 hname
    exact absurd hbuiltIn (hfresh ▸ hscoped.fresh decl hdecl)
  · exact habove

section Turns

variable {source : ItemSource} {context : Context} {p : Progress Event} {d : Document}
  {s : RunState} {t : Turn}

theorem informed_renderVariables (hfixed : source.Fixed) {s s' : RunState} {ds : List Declaration}
    (hs : s.Informed source) (h : renderVariables source s ds = (.ok (), s')) :
    s'.Informed source := by
  induction ds generalizing s with
  | nil => cases h; exact hs
  | cons d rest ih =>
    obtain ⟨r, s₁, hvalue, hrest⟩ := renderVariables_cons_eq_ok_iff.1 h
    have hs₁ : s₁.Informed source := informed_renderValue hfixed hs hvalue
    exact ih (s := s₁.keep d.name r) hs₁ hrest

/-- The failures of a turn. -/
def Turn.failures (source : ItemSource) (t : Turn) : List ItemFailure :=
  match t.rendered source with
  | .ok r => r.failures
  | .error _ => []

/-- The variable of a turn and what could not be handled for it. -/
def Turn.outcome (source : ItemSource) (t : Turn) : String × List ItemFailure :=
  (t.name, t.failures source)

theorem failures_of_renderVariables {s s' : RunState} {ds : List Declaration}
    (h : renderVariables source s ds = (.ok (), s')) :
    s'.failures = s.failures ++ (turnsFrom source s ds).flatMap (Turn.failures source) := by
  induction ds generalizing s with
  | nil => cases h; exact (List.append_nil _).symm
  | cons d rest ih =>
    obtain ⟨r, s₁, hvalue, hrest⟩ := renderVariables_cons_eq_ok_iff.1 h
    rw [ih hrest, turnsFrom_cons hvalue, List.flatMap_cons, RunState.keep,
      (kept_renderValue hvalue).2, List.append_assoc, Turn.failures, Turn.rendered, hvalue]

/-- The variables of a well-scoped document are rendered under a token that is not cancelled. -/
structure Renders (source : ItemSource) (context : Context) (p : Progress Event) (d : Document)
    (s : RunState) : Prop where
  wellScoped : WellScoped d.header d.body
  completes : renderVariables source { scene := ⟨context, .empty⟩, progress := p }
    d.header.declarations = (.ok (), s)
  uncancelled : s.progress.cancelled = false

namespace Renders

theorem contains_iff (h : Renders source context p d s) (name : String) :
    s.scene.rendered.contains name = true ↔ name ∈ declaredNames d.header.declarations :=
  (holds_renderVariables (Scene.holds_nil context) h.completes).1 name

theorem context_eq (h : Renders source context p d s) : s.scene.context = context :=
  (holds_renderVariables (Scene.holds_nil context) h.completes).2

theorem exists_turn (h : Renders source context p d s) {decl : Declaration}
    (hdecl : decl ∈ d.header.declarations) :
    ∃ t ∈ d.turns source context p, t.declaration = decl := by
  rw [← map_declaration_turnsFrom h.completes] at hdecl
  exact List.mem_map.1 hdecl

theorem mem_of_turn (h : Renders source context p d s) (ht : t ∈ d.turns source context p) :
    t.declaration ∈ d.header.declarations := by
  rw [← map_declaration_turnsFrom h.completes]
  exact List.mem_map_of_mem ht

/-- What a value refers to is found at its turn as it is in the end. -/
theorem find?_at_turn (h : Renders source context p d s) (ht : t ∈ d.turns source context p)
    {name : String} (hrefers : t.declaration.value.RefersTo name) :
    t.state.scene.find? name = s.scene.find? name := by
  obtain ⟨before, after, r, s₁, heq, hsplit⟩ := exists_split_of_mem_turns h.completes ht
  have hrest : renderVariables source t.state (t.declaration :: after) = (.ok (), s) :=
    renderVariables_cons_eq_ok_iff.2 ⟨r, s₁, hsplit.value, hsplit.after⟩
  have hlater : name ∉ declaredNames (t.declaration :: after) := by
    intro hmem
    have hnodup := h.wellScoped.distinct
    have hdeclared : name ∈ declaredNames d.header.declarations := by
      rw [heq, declaredNames, List.map_append]
      exact List.mem_append_right _ hmem
    rw [heq, declaredNames, List.map_append, List.nodup_append] at hnodup
    exact hnodup.2.2 name (h.wellScoped.declared_above heq hrefers hdeclared) name hmem rfl
  have hcontext := (holds_renderVariables (Scene.holds_nil context) hsplit.before).2
  rw [Scene.find?, Scene.find?, get?_of_renderVariables hrest hlater, hcontext, h.context_eq]

theorem informed_at_turn (h : Renders source context p d s) (hfixed : source.Fixed)
    (ht : t ∈ d.turns source context p) : t.state.Informed source := by
  obtain ⟨_, _, _, _, _, hsplit⟩ := exists_split_of_mem_turns h.completes ht
  exact informed_renderVariables hfixed (fun _ hnone => by cases hnone) hsplit.before

theorem uncancelled_after_turn (h : Renders source context p d s)
    (ht : t ∈ d.turns source context p) :
    (renderValue source t.state t.declaration.value).2.progress.cancelled = false := by
  obtain ⟨_, _, r, s₁, _, hsplit⟩ := exists_split_of_mem_turns h.completes ht
  rw [hsplit.value]
  exact (grows_renderVariables hsplit.after).uncancelled h.uncancelled

theorem failures_eq (h : Renders source context p d s) :
    s.failures = ((d.turns source context p).map (Turn.outcome source)).flatMap Prod.snd := by
  rw [List.flatMap_map]
  exact failures_of_renderVariables h.completes

theorem nodup_outcomes (h : Renders source context p d s) :
    ((d.turns source context p).map (Turn.outcome source)).Nodup := by
  refine List.Nodup.of_map Prod.fst ?_
  have hdistinct := h.wellScoped.distinct
  rw [← map_declaration_turnsFrom h.completes, declaredNames, List.map_map] at hdistinct
  rwa [List.map_map]

end Renders

/-! ## Two runs -/

variable {p' : Progress Event} {d' : Document} {s' : RunState} {t' : Turn}

theorem name_eq_of_content (h : t'.declaration.content = t.declaration.content) :
    t'.name = t.name := by
  rw [Turn.name, Turn.name, show t'.declaration.name = t.declaration.name from (Prod.mk.inj h).1]

/-- Two turns of one declaration come to the same if the same is found in the end for what it refers
to. -/
theorem rendered_eq_of_content (hfixed : source.Fixed) (h : Renders source context p d s)
    (h' : Renders source context p' d' s') (ht : t ∈ d.turns source context p)
    (ht' : t' ∈ d'.turns source context p')
    (hcontent : t'.declaration.content = t.declaration.content)
    (hfind : ∀ name, t.declaration.value.RefersTo name → s.scene.find? name = s'.scene.find? name) :
    t.rendered source = t'.rendered source := by
  have hvalue : t'.declaration.value = t.declaration.value := (Prod.mk.inj hcontent).2
  have hq' := h'.uncancelled_after_turn ht'
  rw [Turn.rendered, Turn.rendered, hvalue]
  rw [hvalue] at hq'
  refine renderValue_eq_of_references hfixed (h.informed_at_turn hfixed ht)
    (h'.informed_at_turn hfixed ht') ?_ (Prod.ext rfl rfl) (Prod.ext rfl rfl)
    (h.uncancelled_after_turn ht) hq'
  intro name hrefers
  rw [h.find?_at_turn ht hrefers, hfind name hrefers]
  exact (h'.find?_at_turn ht' (hvalue ▸ hrefers)).symm

/-- If two turns of one declaration come to the same, then its variable has the same text. -/
theorem get?_eq_of_content (h : Renders source context p d s) (h' : Renders source context p' d' s')
    (ht : t ∈ d.turns source context p) (ht' : t' ∈ d'.turns source context p')
    (hcontent : t'.declaration.content = t.declaration.content)
    (hrendered : t.rendered source = t'.rendered source) :
    s.scene.rendered.get? t.name = s'.scene.rendered.get? t.name := by
  obtain ⟨r, hr, hget⟩ := get?_of_mem_turns h.wellScoped.distinct h.completes ht
  obtain ⟨r', hr', hget'⟩ := get?_of_mem_turns h'.wellScoped.distinct h'.completes ht'
  rw [hr, hr'] at hrendered
  cases hrendered
  rw [name_eq_of_content hcontent] at hget'
  exact hget.trans hget'.symm

/-- What is not declared is found with the host, in both. -/
theorem find?_eq_of_undeclared_in (h : Renders source context p d s)
    (h' : Renders source context p' d' s') (hreordered : d.Reordered d') {name : String}
    (hname : name ∉ declaredNames d.header.declarations) :
    s.scene.rendered.get? name = s'.scene.rendered.get? name := by
  have hnone : s.scene.rendered.get? name = none := by
    rw [NameMap.get?_eq_none_iff, h.contains_iff]
    exact hname
  have hnone' : s'.scene.rendered.get? name = none := by
    rw [NameMap.get?_eq_none_iff, h'.contains_iff, ← hreordered.declared_iff]
    exact hname
  rw [hnone, hnone']

/-- The induction: if the texts of the declarations above are the same in both runs, then so is that
of the next one, which refers to no others. -/
theorem rendered_eq_above (hfixed : source.Fixed) (h : Renders source context p d s)
    (h' : Renders source context p' d' s') (hreordered : d.Reordered d')
    (before after : List Declaration) (heq : d.header.declarations = before ++ after) :
    ∀ name ∈ declaredNames before,
      s.scene.rendered.get? name = s'.scene.rendered.get? name := by
  induction before using List.reverseRecOn generalizing after with
  | nil => exact fun name hname => absurd hname List.not_mem_nil
  | append_singleton before decl ih =>
    rw [List.append_assoc, List.singleton_append] at heq
    have habove := ih (decl :: after) heq
    have hdecl : decl ∈ d.header.declarations := by
      rw [heq]
      exact List.mem_append_right _ List.mem_cons_self
    intro name hname
    rw [declaredNames, List.map_append, List.mem_append, List.map_singleton,
      List.mem_singleton] at hname
    rcases hname with hname | rfl
    · exact habove name hname
    · obtain ⟨decl', hdecl', hcontent⟩ := hreordered.exists_content hdecl
      obtain ⟨t, ht, rfl⟩ := h.exists_turn hdecl
      obtain ⟨t', ht', rfl⟩ := h'.exists_turn hdecl'
      have hfind : ∀ name, t.declaration.value.RefersTo name →
          s.scene.find? name = s'.scene.find? name := by
        intro name hrefers
        have hget : s.scene.rendered.get? name = s'.scene.rendered.get? name := by
          by_cases hdeclared : name ∈ declaredNames d.header.declarations
          · exact habove name (h.wellScoped.declared_above heq hrefers hdeclared)
          · exact find?_eq_of_undeclared_in h h' hreordered hdeclared
        rw [Scene.find?, Scene.find?, hget, h.context_eq, h'.context_eq]
      have hrendered := rendered_eq_of_content hfixed h h' ht ht' hcontent hfind
      exact get?_eq_of_content h h' ht ht' hcontent hrendered

/-- In the end the same texts are rendered. -/
theorem rendered_eq_of_reordered (hfixed : source.Fixed) (h : Renders source context p d s)
    (h' : Renders source context p' d' s') (hreordered : d.Reordered d') :
    s.scene.rendered = s'.scene.rendered := by
  refine NameMap.ext_get? fun name => ?_
  by_cases hname : name ∈ declaredNames d.header.declarations
  · exact rendered_eq_above hfixed h h' hreordered d.header.declarations []
      (List.append_nil _).symm name hname
  · exact find?_eq_of_undeclared_in h h' hreordered hname

theorem exists_turn_alike (hfixed : source.Fixed) (h : Renders source context p d s)
    (h' : Renders source context p' d' s') (hreordered : d.Reordered d')
    (ht : t ∈ d.turns source context p) :
    ∃ t' ∈ d'.turns source context p', t'.outcome source = t.outcome source := by
  obtain ⟨decl', hdecl', hcontent⟩ := hreordered.exists_content (h.mem_of_turn ht)
  obtain ⟨t', ht', rfl⟩ := h'.exists_turn hdecl'
  have hfind (name : String) : s.scene.find? name = s'.scene.find? name := by
    rw [Scene.find?, Scene.find?, h.context_eq, h'.context_eq,
      rendered_eq_of_reordered hfixed h h' hreordered]
  have hrendered := rendered_eq_of_content hfixed h h' ht ht' hcontent
    fun name _ => hfind name
  refine ⟨t', ht', ?_⟩
  rw [Turn.outcome, Turn.outcome, Turn.failures, Turn.failures, hrendered,
    name_eq_of_content hcontent]

/-- The failures are the same up to their order, which is that of the declarations. -/
theorem failures_perm_of_reordered (hfixed : source.Fixed) (h : Renders source context p d s)
    (h' : Renders source context p' d' s') (hreordered : d.Reordered d') :
    s'.failures.Perm s.failures := by
  have houtcomes : ((d'.turns source context p').map (Turn.outcome source)).Perm
      ((d.turns source context p).map (Turn.outcome source)) := by
    refine (List.perm_ext_iff_of_nodup h'.nodup_outcomes h.nodup_outcomes).2 fun x => ?_
    rw [List.mem_map, List.mem_map]
    constructor
    · rintro ⟨t', ht', rfl⟩
      exact exists_turn_alike hfixed h' h hreordered.symm ht'
    · rintro ⟨t, ht, rfl⟩
      exact exists_turn_alike hfixed h h' hreordered ht
  rw [h.failures_eq, h'.failures_eq]
  exact houtcomes.flatMap_right Prod.snd

end Turns

/-! ## Whole runs -/

section Runs

variable {d d' : Document} {p p' : Progress Event}

/-- An agent's answer does not depend on what was done before it is asked. -/
theorem run_eq_of_uncancelled (hp : p.cancelled = false) (hp' : p'.cancelled = false)
    (name text : String) (agent : Agent) :
    (agent.run p name text).1 = (agent.run p' name text).1 := by
  simp only [Agent.run, Progress.attempt, hp, hp', Bool.false_eq_true, if_false]

theorem handOff_eq_of_uncancelled (host : Host) (script : String) (cache : ResponseCache)
    (hp : p.cancelled = false) (hp' : p'.cancelled = false) (name text : String) :
    (handOff host script name text cache p).1 = (handOff host script name text cache p').1 ∧
      (handOff host script name text cache p).2.1 =
        (handOff host script name text cache p').2.1 := by
  rw [handOff, handOff]
  cases host.agents.get? name with
  | none => exact ⟨rfl, rfl⟩
  | some agent =>
    have hanswer := run_eq_of_uncancelled hp hp' name text agent
    rcases hrun : agent.run p name text with ⟨answer, q⟩
    rcases hrun' : agent.run p' name text with ⟨answer', q'⟩
    rw [hrun, hrun'] at hanswer
    cases hanswer
    rcases answer with _ | e | response <;> simp only [hrun, hrun', and_self]

theorem handOffTo?_eq_of_uncancelled (host : Host) (script : String) (cache : ResponseCache)
    (hp : p.cancelled = false) (hp' : p'.cancelled = false) (agent : Option String)
    (text : String) :
    (handOffTo? host script agent text cache p).1 =
        (handOffTo? host script agent text cache p').1 ∧
      (handOffTo? host script agent text cache p).2.1 =
        (handOffTo? host script agent text cache p').2.1 := by
  cases agent with
  | none => exact ⟨rfl, rfl⟩
  | some name =>
    have hanswer := handOff_eq_of_uncancelled host script cache hp hp' name text
    rw [handOffTo?, handOffTo?]
    rcases hhand : handOff host script name text cache p with ⟨r, c, q⟩
    rcases hhand' : handOff host script name text cache p' with ⟨r', c', q'⟩
    rw [hhand, hhand'] at hanswer
    obtain ⟨hr, hc⟩ := hanswer
    cases hr
    cases hc
    cases r <;> exact ⟨rfl, rfl⟩

/-- In whatever order the compiler accepts the declarations, a run comes to the same variables, the
same text and the same response, keeps the same responses, and reports the same failures up to their
order. -/
theorem declaration_order_irrelevant {text text' : String} (hd : Document.compile text = .ok d)
    (hd' : Document.compile text' = .ok d') (hreordered : d.Reordered d') {host : Host}
    (hfixed : host.source.Fixed) (script : String) (context : Context) (cache : ResponseCache)
    (hp : (d.run host script context cache p).2.2.cancelled = false)
    (hp' : (d'.run host script context cache p).2.2.cancelled = false) :
    ∃ out out', (d.run host script context cache p).1 = .ok out ∧
      (d'.run host script context cache p).1 = .ok out' ∧
      out'.rendered = out.rendered ∧ out'.text = out.text ∧ out'.response = out.response ∧
      out'.failures.Perm out.failures ∧
      (d'.run host script context cache p).2.1 = (d.run host script context cache p).2.1 := by
  obtain ⟨out, cache₁, q, hrun, hq⟩ := run_completes hp
  obtain ⟨out', cache₁', q', hrun', hq'⟩ := run_completes hp'
  obtain ⟨s, p₁, text, hvars, hbody, hhand, hout⟩ := run_eq_ok hrun
  obtain ⟨s', p₁', text', hvars', hbody', hhand', hout'⟩ := run_eq_ok hrun'
  -- a token that is cancelled stays so, thus it was not before the body and the hand-off
  have hp₁ := (grows_handOffTo? hhand).uncancelled hq
  have hp₁' := (grows_handOffTo? hhand').uncancelled hq'
  have h : Renders host.source context p d s :=
    ⟨Document.wellScoped_of_compile hd, hvars, (grows_expandBody hbody).uncancelled hp₁⟩
  have h' : Renders host.source context p d' s' :=
    ⟨Document.wellScoped_of_compile hd', hvars', (grows_expandBody hbody').uncancelled hp₁'⟩
  have hrendered : out'.rendered = out.rendered := by
    rw [hout, hout']
    exact (rendered_eq_of_reordered hfixed h h' hreordered).symm
  have htext : out'.text = out.text :=
    (text_eq_of_references hfixed hreordered.body hrun hrun' fun o _ => by rw [hrendered]).symm
  have hsame : text' = text := by
    rw [hout, hout'] at htext
    exact htext
  obtain ⟨hresponse, hcache⟩ :=
    handOffTo?_eq_of_uncancelled host script cache hp₁' hp₁ d.header.agent text
  rw [hreordered.agent, hsame] at hhand'
  rw [hhand, hhand'] at hresponse hcache
  refine ⟨out, out', by rw [hrun], by rw [hrun'], hrendered, htext,
    Except.ok.inj hresponse, ?_, ?_⟩
  · rw [hout, hout']
    exact failures_perm_of_reordered hfixed h h' hreordered
  · rw [hrun, hrun']
    exact hcache

end Runs

/-- A document for an agent that shows two variables, declared on the given lines. -/
def showsBoth (first second : String) : String :=
  "---\nagent: echo\nvariables:\n" ++ first ++ second ++ "---\n$a and $b\n"

/-- The line of a variable that takes a listing of its own. -/
def listingLine (name : String) : String :=
  "  " ++ name ++ ": /^" ++ name ++ "/ \x7b xargs(\"file\") | prompt(\"each " ++ name ++
    "\") \x7d\n"

/-- A host whose items are gone when they are asked for. -/
def goneItems : Host where
  source := { enumerate _ := .finishes (.ok ["a.kt", "b.kt"]), isEligible _ _ := .finishes false }
  agents := .withEcho

/-- The name and the action of a declaration. -/
def Declaration.action? (d : Declaration) : Option (String × Action) :=
  match d.value with
  | .action a => some (d.name, a)
  | _ => none

theorem map_content_of_map_action? {ds : List Declaration} (as : List (String × Action))
    (h : ds.map Declaration.action? = as.map some) :
    ds.map Declaration.content = as.map fun a => (a.1, .action a.2) := by
  induction ds generalizing as with
  | nil => rw [List.map_eq_nil_iff.1 h.symm]; rfl
  | cons d ds ih =>
    cases as with
    | nil => cases h
    | cons a as =>
      obtain ⟨hd, hrest⟩ := List.cons.inj h
      rw [List.map_cons, List.map_cons, ih as hrest, Declaration.content]
      unfold Declaration.action? at hd
      split at hd
      · rename_i hvalue
        cases hd
        rw [hvalue]
      · cases hd

/-- What is read off a document and its run. -/
structure Reading where
  actions : List (Option (String × Action))
  agent : Option String
  body : List Char
  cancelled : Bool
  /-- The items that could not be handled, with the response. -/
  outcome : Option (List String × Option String)
  deriving DecidableEq

def Document.readGone (d : Document) : Reading :=
  let r := d.run goneItems "s" {} .empty {}
  ⟨d.header.declarations.map Declaration.action?, d.header.agent, d.body, r.2.2.cancelled,
    r.1.toOption.map fun out => (out.failures.map (·.item), out.response)⟩

def eachOf (name : String) : String × Action :=
  (name, ⟨"^" ++ name, [.xargs ["file"], .prompt ("each " ++ name)], List.cons_ne_nil _ _⟩)

theorem declaration_order_irrelevant_listings :
    ∃ d d' out out',
      Document.compile (showsBoth (listingLine "a") (listingLine "b")) = .ok d ∧
      Document.compile (showsBoth (listingLine "b") (listingLine "a")) = .ok d' ∧
      d.Reordered d' ∧ (d.run goneItems "s" {} .empty {}).1 = .ok out ∧
      (d'.run goneItems "s" {} .empty {}).1 = .ok out' ∧ out'.rendered = out.rendered ∧
      out'.text = out.text ∧ out.response = some "each a and each b\n" ∧
      out'.response = out.response ∧ out.failures.map (·.item) = ["a.kt", "b.kt"] ∧
      out'.failures.map (·.item) = ["b.kt", "a.kt"] := by
  have hmap : (Document.compile (showsBoth (listingLine "a") (listingLine "b"))).toOption.map
      Document.readGone = some ⟨[some (eachOf "a"), some (eachOf "b")], some "echo",
        "$a and $b\n".toList, false, some (["a.kt", "b.kt"], some "each a and each b\n")⟩ := by
    decide +kernel
  have hmap' : (Document.compile (showsBoth (listingLine "b") (listingLine "a"))).toOption.map
      Document.readGone = some ⟨[some (eachOf "b"), some (eachOf "a")], some "echo",
        "$a and $b\n".toList, false, some (["b.kt", "a.kt"], some "each a and each b\n")⟩ := by
    decide +kernel
  obtain ⟨d, hd, hread⟩ := Document.compiled_of_map hmap
  obtain ⟨d', hd', hread'⟩ := Document.compiled_of_map hmap'
  obtain ⟨hactions, hagent, hbody, hp, houtcome⟩ := Reading.mk.inj hread
  obtain ⟨hactions', hagent', hbody', hp', houtcome'⟩ := Reading.mk.inj hread'
  have hreordered : d.Reordered d' := by
    refine ⟨?_, hagent'.trans hagent.symm, hbody'.trans hbody.symm⟩
    rw [map_content_of_map_action? [eachOf "a", eachOf "b"] hactions,
      map_content_of_map_action? [eachOf "b", eachOf "a"] hactions']
    exact .swap _ _ _
  have hfixed : goneItems.source.Fixed := ⟨fun _ _ => rfl, fun _ _ _ => rfl⟩
  obtain ⟨out, out', hrun, hrun', hrendered, htext, hresponse, _, _⟩ :=
    declaration_order_irrelevant hd hd' hreordered hfixed "s" {} .empty hp hp'
  rw [hrun] at houtcome
  rw [hrun'] at houtcome'
  obtain ⟨hitems, hanswer⟩ := Prod.mk.inj (Option.some.inj houtcome)
  obtain ⟨hitems', _⟩ := Prod.mk.inj (Option.some.inj houtcome')
  exact ⟨d, d', out, out', hd, hd', hreordered, hrun, hrun', hrendered, htext, hanswer, hresponse,
    hitems, hitems'⟩

end PromptScript
