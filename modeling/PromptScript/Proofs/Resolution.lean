import PromptScript.Proofs.BodyParts
import PromptScript.Proofs.Lookups
import PromptScript.Proofs.Rendering

/-!
# Proofs.Resolution

Compile-time checking is sound for the run. Each look-up of a run is a reference of a text that the
compiler has checked (`asks_renderVariables`, `mem_pieces_of_expandBody`), in a scene that holds
exactly the variables declared above that text (`holds_renderVariables`). So `lookups_resolve`: what
a run looks up and does not find is a name of the host, or a bare name in braces that the document
does not know.
-/

namespace PromptScript

open SymbolTable

/-- The look-up is for a reference of one of the texts. -/
def ReferenceLookup.Asks (l : ReferenceLookup) (s : Scene) (texts : List String) : Prop :=
  l.scene = s ∧ ∃ text ∈ texts, .reference l.reference ∈ pieces text.toList

theorem ReferenceLookup.Asks.mono {l : ReferenceLookup} {s : Scene} {texts more : List String}
    (h : l.Asks s texts) (hsub : ∀ text ∈ texts, text ∈ more) : l.Asks s more := by
  obtain ⟨hscene, text, htext, hmem⟩ := h
  exact ⟨hscene, text, hsub text htext, hmem⟩

/-! ## The look-ups of a text -/

theorem asks_fillPieces {l : ReferenceLookup} {s : Scene} {ps : List Piece}
    (h : l ∈ (Through.fillPieces Traced.look s ps).lookups) :
    l.scene = s ∧ .reference l.reference ∈ ps := by
  induction ps with
  | nil => simp [Through.fillPieces] at h
  | cons p rest ih =>
    cases p with
    | plain c =>
      simp only [Through.fillPieces, Traced.lookups_bind, Traced.lookups_pure,
        List.append_nil] at h
      exact ⟨(ih h).1, List.mem_cons_of_mem _ (ih h).2⟩
    | reference r =>
      simp only [Through.fillPieces, Traced.lookups_bind, Traced.lookups_look, Traced.value_look,
        List.mem_append, List.mem_singleton] at h
      rcases h with rfl | h | h
      · exact ⟨rfl, List.mem_cons_self⟩
      · exact ⟨(ih h).1, List.mem_cons_of_mem _ (ih h).2⟩
      · split at h <;> cases h

theorem asks_fill {l : ReferenceLookup} {s : Scene} {text : String}
    (h : l ∈ (Through.fill Traced.look s text).lookups) : l.Asks s [text] := by
  simp only [Through.fill, Traced.lookups_bind, Traced.lookups_pure, List.append_nil] at h
  obtain ⟨hscene, hmem⟩ := asks_fillPieces h
  exact ⟨hscene, text, List.mem_singleton_self text, hmem⟩

/-! ## The look-ups of a value -/

theorem asks_fillVerbs {l : ReferenceLookup} {s : Scene} {verbs : List Verb}
    (h : l ∈ (Through.fillVerbs Traced.look s verbs).lookups) :
    l.Asks s (verbs.filterMap Verb.message?) := by
  induction verbs with
  | nil => simp [Through.fillVerbs] at h
  | cons v rest ih =>
    simp only [Through.fillVerbs, Traced.lookups_bind, Traced.lookups_pure, List.append_nil,
      List.mem_append] at h
    rcases h with h | h
    · cases v with
      | prompt message =>
        simp only [Through.fillVerb, Traced.lookups_bind, Traced.lookups_pure,
          List.append_nil] at h
        refine (asks_fill h).mono fun text htext => ?_
        rw [List.mem_singleton] at htext
        simp [htext, Verb.message?]
      | grep patterns => cases h
      | sort arguments => cases h
      | xargs names => cases h
    · refine (ih h).mono fun text htext => ?_
      obtain ⟨w, hw, hmessage⟩ := List.mem_filterMap.1 htext
      exact List.mem_filterMap.2 ⟨w, List.mem_cons_of_mem v hw, hmessage⟩

theorem asks_runFilled {l : ReferenceLookup} {source : ItemSource} {s : Scene} {p : Progress Event}
    {verbs : List Verb} {candidates : List String}
    (h : l ∈ (Through.runFilled Traced.look source s p verbs candidates).lookups) :
    l.Asks s (verbs.filterMap Verb.message?) := by
  simp only [Through.runFilled, Traced.lookups_bind, List.mem_append] at h
  rcases h with h | h
  · exact asks_fillVerbs h
  · split at h <;> cases h

theorem asks_runAction {l : ReferenceLookup} {source : ItemSource} {s : RunState} {a : Action}
    (h : l ∈ (Through.runAction Traced.look source s a).lookups) : l.Asks s.scene a.messages := by
  rw [Through.runAction] at h
  split at h
  · cases h
  · cases h
  · rename_i items s' hlist
    split at h
    · cases h
    · simp only [Traced.lookups_bind, Traced.lookups_pure, List.append_nil] at h
      rw [← (kept_listItems hlist).1]
      exact asks_runFilled h

/-- The arm that is chosen is one of the arms. -/
theorem mem_arms_of_select {c : CaseMatch} {observed : String} {a : Action}
    (h : c.select observed = some a) : a ∈ c.arms.values :=
  List.mem_map.2 ⟨_, (NameMap.find?_eq_some_iff c.arms.ascending observed a).1 h, rfl⟩

theorem asks_renderValue {l : ReferenceLookup} {source : ItemSource} {s : RunState} {v : Value}
    (h : l ∈ (Through.renderValue Traced.look source s v).lookups) : l.Asks s.scene v.texts := by
  cases v with
  | action a => exact asks_runAction h
  | caseMatch c =>
    simp only [Through.renderValue, Traced.lookups_bind, Through.value_fill,
      List.mem_append] at h
    rcases h with h | h
    · exact (asks_fill h).mono fun text htext => by simp [Value.texts, List.mem_singleton.1 htext]
    · split at h
      · rename_i a hselect
        refine (asks_runAction h).mono fun text htext => ?_
        exact List.mem_cons_of_mem _
          (List.mem_flatMap.2 ⟨a, mem_arms_of_select hselect, htext⟩)
      · cases h
  | text t =>
    simp only [Through.renderValue, Traced.lookups_bind, Traced.lookups_pure,
      List.append_nil] at h
    exact asks_runFilled h
  | number n => cases h
  | date t => cases h
  | flag b => cases h
  | list items => cases h
  | record fields => cases h

/-! ## The look-ups of a run -/

/-- A look-up for a variable happens once the declarations above it are rendered. -/
theorem asks_renderVariables {l : ReferenceLookup} {source : ItemSource} {s : RunState}
    {ds : List Declaration}
    (h : l ∈ (Through.renderVariables Traced.look source s ds).lookups) :
    ∃ before d after s₁, ds = before ++ d :: after ∧
      renderVariables source s before = (.ok (), s₁) ∧ l.Asks s₁.scene d.value.texts := by
  induction ds generalizing s with
  | nil => cases h
  | cons d rest ih =>
    simp only [Through.renderVariables, Traced.lookups_bind, Through.value_renderValue,
      List.mem_append] at h
    rcases h with h | h
    · exact ⟨[], d, rest, s, rfl, rfl, asks_renderValue h⟩
    · split at h
      · cases h
      · rename_i r s₁ hvalue
        obtain ⟨before, d', after, s₂, rfl, hbefore, hasks⟩ := ih h
        exact ⟨d :: before, d', after, s₂, rfl,
          renderVariables_cons_eq_ok_iff.2 ⟨r, s₁, hvalue, hbefore⟩, hasks⟩

theorem asks_expandParts {l : ReferenceLookup} {source : ItemSource} {s : Scene} {p : Progress Event}
    {parts : List BodyPart}
    (h : l ∈ (Through.expandParts Traced.look source s p parts).lookups) :
    l.scene = s ∧ ∃ text, .plain text ∈ parts ∧ .reference l.reference ∈ pieces text := by
  induction parts generalizing p with
  | nil => cases h
  | cons part rest ih =>
    have hrest : ∀ {p}, l ∈ (Through.expandParts Traced.look source s p rest).lookups →
        l.scene = s ∧ ∃ text, .plain text ∈ part :: rest ∧
          .reference l.reference ∈ pieces text := by
      intro p h
      obtain ⟨hscene, text, htext, hmem⟩ := ih h
      exact ⟨hscene, text, List.mem_cons_of_mem part htext, hmem⟩
    cases part with
    | plain text =>
      simp only [Through.expandParts, Traced.lookups_bind, List.mem_append] at h
      rcases h with h | h | h
      · obtain ⟨hscene, _, htext, hmem⟩ := asks_fill h
        rw [List.mem_singleton.1 htext, String.toList_ofList] at hmem
        exact ⟨hscene, text, List.mem_cons_self, hmem⟩
      · exact hrest h
      · split at h <;> cases h
    | command call =>
      simp only [Through.expandParts] at h
      split at h
      · cases h
      · simp only [Traced.lookups_bind, List.mem_append] at h
        rcases h with h | h
        · exact hrest h
        · split at h <;> cases h

/-- A look-up in the body is for a reference that the body as a whole has. -/
theorem mem_pieces_of_expandBody {l : ReferenceLookup} {source : ItemSource} {s : Scene}
    {p : Progress Event} {body : List Char}
    (h : l ∈ (Through.expandBody Traced.look source s p body).lookups) :
    l.scene = s ∧ .reference l.reference ∈ pieces body := by
  simp only [Through.expandBody, Traced.lookups_bind, List.mem_append] at h
  rcases h with h | h
  · obtain ⟨hscene, text, htext, hmem⟩ := asks_expandParts h
    refine ⟨hscene, ?_⟩
    rw [pieces_eq_flatMap_bodyParts body]
    exact List.mem_flatMap.2 ⟨_, htext, hmem⟩
  · split at h <;> cases h

/-! ## What is not found -/

/-- A reference in scope that is not found is a name of the host, or it did not count as one. -/
theorem not_found_of_inScope {d : Document} {s : Scene} {names : List String} {text : String}
    {r : Reference} (hs : s.Holds names)
    (hscope : InScope (Document.knownNames d.header) (builtInNames ++ names) text)
    (hmem : .reference r ∈ pieces text.toList) (hnone : s.rendered.get? r.name = none) :
    r.name ∈ builtInNames ∨ r.bare = true ∧ r.name ∉ builtInNames ∧
      r.name ∉ declaredNames d.header.declarations := by
  obtain ⟨o, ho, rfl⟩ := mem_references_iff.2 hmem
  by_cases hrefers : Refers (Document.knownNames d.header) o.reference
  · rcases List.mem_append.1 (hscope o ho hrefers) with h | h
    · exact .inl h
    · exact absurd ((hs _).2 h) (NameMap.get?_eq_none_iff.1 hnone)
  · simp only [Refers, Classical.not_imp, Document.knownNames, List.mem_append, not_or] at hrefers
    exact .inr ⟨hrefers.1, hrefers.2.1, hrefers.2.2⟩

/-- A declared name in scope is found among the variables rendered so far. -/
theorem found_of_inScope {d : Document} {body : List Char} (hscoped : WellScoped d.header body)
    {s : Scene} {names : List String} {text : String} {r : Reference} (hs : s.Holds names)
    (hscope : InScope (Document.knownNames d.header) (builtInNames ++ names) text)
    (hmem : .reference r ∈ pieces text.toList)
    (hdeclared : r.name ∈ declaredNames d.header.declarations) :
    r.name ∈ names ∧ ∃ v, s.rendered.get? r.name = some v := by
  obtain ⟨o, ho, rfl⟩ := mem_references_iff.2 hmem
  have hrefers : Refers (Document.knownNames d.header) o.reference := by
    intro _
    exact List.mem_append_right _ hdeclared
  have hfresh : o.reference.name ∉ builtInNames := by
    obtain ⟨decl, hdecl, hname⟩ := List.mem_map.1 hdeclared
    rw [← hname]
    exact hscoped.fresh decl hdecl
  have hnames : o.reference.name ∈ names :=
    (List.mem_append.1 (hscope o ho hrefers)).resolve_left hfresh
  exact ⟨hnames, NameMap.contains_eq_true_iff.1 ((hs _).2 hnames)⟩

/-- Where a look-up of a run stands: the variables that are rendered, and the text it is in. -/
theorem lookup_site {d : Document} (hscoped : WellScoped d.header d.body) {host : Host}
    {script : String} {context : Context} {cache : ResponseCache} {p : Progress Event}
    {l : ReferenceLookup}
    (h : l ∈ (Through.run Traced.look host script d context cache p).lookups) :
    ∃ names text, l.scene.Holds names ∧ l.scene.context = context ∧
      InScope (Document.knownNames d.header) (builtInNames ++ names) text ∧
      .reference l.reference ∈ pieces text.toList ∧
      ∀ name ∈ names, ∀ out, (d.run host script context cache p).1 = .ok out →
        out.rendered.get? name = l.scene.rendered.get? name := by
  simp only [Through.run, Traced.lookups_bind, Through.value_renderVariables,
    List.mem_append] at h
  rcases h with h | h
  · -- in a value: the declarations above it are rendered, and the ones below keep them
    obtain ⟨before, decl, after, s₁, heq, hbefore, hscene, text, htext, hmem⟩ :=
      asks_renderVariables h
    obtain ⟨hholds, hcontext⟩ := holds_renderVariables (Scene.holds_nil context) hbefore
    refine ⟨declaredNames before, text, by rw [hscene]; exact hholds,
      by rw [hscene]; exact hcontext,
      hscoped.above before decl after heq text (Value.mem_texts_iff.1 htext), hmem, ?_⟩
    intro name hname out hout
    obtain ⟨s, p₁, filled, hvars, _, _, hrun⟩ := run_eq_ok (Prod.ext hout rfl)
    rw [heq, renderVariables_append hbefore] at hvars
    have hlater : name ∉ declaredNames (decl :: after) := by
      have hnodup := hscoped.distinct
      rw [heq, declaredNames, List.map_append, List.nodup_append] at hnodup
      intro hmem
      exact hnodup.2.2 name hname name hmem rfl
    rw [hrun, hscene]
    exact get?_of_renderVariables hvars hlater
  · -- in the body: all declarations are rendered
    split at h
    · cases h
    · rename_i s hvars
      simp only [Traced.lookups_bind, Through.value_expandBody, List.mem_append] at h
      obtain ⟨hholds, hcontext⟩ := holds_renderVariables (Scene.holds_nil context) hvars
      rcases h with h | h
      · obtain ⟨hscene, hmem⟩ := mem_pieces_of_expandBody h
        refine ⟨declaredNames d.header.declarations, String.ofList d.body,
          by rw [hscene]; exact hholds, by rw [hscene]; exact hcontext, hscoped.body,
          by rw [String.toList_ofList]; exact hmem, ?_⟩
        intro name _ out hout
        obtain ⟨s', p₁, filled, hvars', _, _, hrun⟩ := run_eq_ok (Prod.ext hout rfl)
        rw [hvars] at hvars'
        cases hvars'
        rw [hrun, hscene]
      · split at h
        · cases h
        · split at h <;> cases h

/-- Compile-time checking is sound for the run. A run is the traced run without its trace, and a
look-up that finds no rendered variable is for a name of the host or for a bare name in braces that
the document does not know, whatever the context holds. A look-up of a declared name finds the text
that the variable keeps to the end. -/
theorem lookups_resolve {text : String} {d : Document} (hd : Document.compile text = .ok d)
    (host : Host) (script : String) (context : Context) (cache : ResponseCache)
    (p : Progress Event) :
    (Through.run Traced.look host script d context cache p).value =
      d.run host script context cache p ∧
    ∀ l ∈ (Through.run Traced.look host script d context cache p).lookups,
      l.scene.context = context ∧
      (l.scene.rendered.get? l.reference.name = none →
        l.reference.name ∈ builtInNames ∨
        l.reference.bare = true ∧ l.reference.name ∉ builtInNames ∧
          l.reference.name ∉ declaredNames d.header.declarations) ∧
      (l.reference.name ∈ declaredNames d.header.declarations →
        ∃ v, l.scene.rendered.get? l.reference.name = some v ∧ l.answer = some v ∧
          ∀ out, (d.run host script context cache p).1 = .ok out →
            out.rendered.get? l.reference.name = some v) := by
  refine ⟨Through.value_run host script d context cache p, ?_⟩
  intro l hl
  have hscoped := Document.wellScoped_of_compile hd
  obtain ⟨names, text, hholds, hcontext, hscope, hmem, hkept⟩ := lookup_site hscoped hl
  refine ⟨hcontext, ?_, ?_⟩
  · intro hnone
    exact not_found_of_inScope hholds hscope hmem hnone
  · intro hdeclared
    obtain ⟨hname, v, hv⟩ := found_of_inScope hscoped hholds hscope hmem hdeclared
    refine ⟨v, hv, ?_, ?_⟩
    · rw [ReferenceLookup.answer, Scene.find?, hv]; rfl
    · intro out hout
      rw [hkept _ hname out hout, hv]

/-- A document whose header and body both hold a bare name in braces that it does not know. -/
def greetingText : String :=
  "---\nvariables:\n  name: Ann\n  greeting: \"hi $name \x7bit\x7d\"\n---\n" ++
    "$greeting \x7bcontext.name\x7d \x7bit\x7d $language\n"

theorem lookups_resolve_greeting :
    ∃ d, Document.compile greetingText = .ok d ∧
      (Through.run Traced.look { source := .ofList [] } "s" d {} .empty {}).lookups.map
        (fun l => l.reference.name) = ["name", "it", "greeting", "name", "it", "language"] ∧
      ∀ l ∈ (Through.run Traced.look { source := .ofList [] } "s" d {} .empty {}).lookups,
        (l.scene.rendered.get? l.reference.name = none →
          l.reference.name ∈ builtInNames ∨ l.reference.bare = true ∧
            l.reference.name ∉ builtInNames ∧
            l.reference.name ∉ declaredNames d.header.declarations) ∧
        (l.reference.name ∈ declaredNames d.header.declarations → ∃ v, l.answer = some v) := by
  have hnames : (Document.compile greetingText).toOption.map (fun d =>
      (Through.run Traced.look { source := .ofList [] } "s" d {} .empty {}).lookups.map
        fun l => l.reference.name) =
      some ["name", "it", "greeting", "name", "it", "language"] := by decide +kernel
  cases hd : Document.compile greetingText with
  | error e => rw [hd] at hnames; cases hnames
  | ok d =>
    rw [hd] at hnames
    refine ⟨d, rfl, Option.some.inj hnames, ?_⟩
    intro l hl
    obtain ⟨_, hunknown, hdeclared⟩ :=
      (lookups_resolve hd { source := .ofList [] } "s" {} .empty {}).2 l hl
    refine ⟨hunknown, fun h => ?_⟩
    obtain ⟨v, _, hv, _⟩ := hdeclared h
    exact ⟨v, hv⟩

end PromptScript
