import Mathlib.Data.List.Basic
import PromptScript.Proofs.Resolution

/-!
# Proofs.Agreement

A run sees of a scene only what its look-ups find. If another scene shows the same in place of each
reference that is looked up, texts, values and bodies come to the same there, and the log too.
`renderValue_withScene` says so of a variable, under any other scene; `run_under` says so of a whole
run, under another context.
-/

namespace PromptScript

namespace Scene

/-- What stands in place of a reference. -/
def shown (s : Scene) (r : Reference) : List Char := Piece.resolved s.find? (.reference r)

/-- The scene with the values of another host. -/
def under (s : Scene) (c : Context) : Scene := { s with context := c }

@[simp] theorem rendered_under (s : Scene) (c : Context) : (s.under c).rendered = s.rendered := rfl

end Scene

/-- The other scene shows the same in place of the reference that is looked up. -/
def ReferenceLookup.AlikeIn (l : ReferenceLookup) (t : Scene) : Prop :=
  t.shown l.reference = l.scene.shown l.reference

section Agreement

variable {source : ItemSource} {s t : Scene}

/-! ## Texts and verbs -/

theorem resolved_congr {ps : List Piece}
    (h : ∀ r, .reference r ∈ ps → s.shown r = t.shown r) :
    ps.flatMap (Piece.resolved s.find?) = ps.flatMap (Piece.resolved t.find?) := by
  apply List.flatMap_congr
  intro piece hpiece
  cases piece with
  | plain c => rfl
  | reference r => exact h r hpiece

/-- Each reference of a text is looked up. -/
theorem mem_lookups_fillPieces {ps : List Piece} {r : Reference} (h : .reference r ∈ ps) :
    ⟨s, r⟩ ∈ (Through.fillPieces Traced.look s ps).lookups := by
  induction ps with
  | nil => cases h
  | cons p rest ih =>
    cases p with
    | plain c =>
      simp only [Through.fillPieces, Traced.lookups_bind, Traced.lookups_pure, List.append_nil]
      rcases List.mem_cons.1 h with h | h
      · cases h
      · exact ih h
    | reference r' =>
      simp only [Through.fillPieces, Traced.lookups_bind, Traced.lookups_look, List.mem_append,
        List.mem_singleton]
      rcases List.mem_cons.1 h with h | h
      · cases h; exact .inl rfl
      · exact .inr (.inl (ih h))

theorem fill_of_alike {text : String}
    (h : ∀ l ∈ (Through.fill Traced.look s text).lookups, l.AlikeIn t) :
    t.fill text = s.fill text := by
  simp only [Through.fill, Traced.lookups_bind, Traced.lookups_pure, List.append_nil] at h
  exact congrArg String.ofList (resolved_congr fun r hr => h ⟨s, r⟩ (mem_lookups_fillPieces hr))

theorem filled_of_alike {verbs : List Verb}
    (h : ∀ l ∈ (Through.fillVerbs Traced.look s verbs).lookups, l.AlikeIn t) :
    verbs.map (Verb.filled t) = verbs.map (Verb.filled s) := by
  induction verbs with
  | nil => rfl
  | cons v rest ih =>
    simp only [Through.fillVerbs, Traced.lookups_bind, Traced.lookups_pure, List.append_nil,
      List.mem_append] at h
    have hrest := ih fun l hl => h l (.inr hl)
    rw [List.map_cons, List.map_cons, hrest]
    congr 1
    cases v with
    | prompt message =>
      have hmessage : t.fill message = s.fill message := by
        refine fill_of_alike fun l hl => h l (.inl ?_)
        simpa [Through.fillVerb] using hl
      simp only [Verb.filled, hmessage]
    | grep patterns => rfl
    | sort arguments => rfl
    | xargs names => rfl

/-! ## Values -/

theorem runFilled_of_alike {p : Progress Event} {a : Action} {candidates : List String}
    (h : ∀ l ∈ (Through.runFilled Traced.look source s p a.verbs candidates).lookups, l.AlikeIn t) :
    runFilled source t p a candidates = runFilled source s p a candidates := by
  have hverbs : a.verbs.map (Verb.filled t) = a.verbs.map (Verb.filled s) :=
    filled_of_alike fun l hl => h l (List.mem_append_left _ hl)
  simp only [runFilled, runPipeline, Action.mapVerbs, hverbs]

theorem listItems_withScene (source : ItemSource) (s : RunState) (t : Scene) :
    listItems source { s with scene := t } =
      ((listItems source s).1, { (listItems source s).2 with scene := t }) := by
  obtain ⟨scene, listing, failures, progress⟩ := s
  cases listing with
  | some answer => rfl
  | none =>
    simp only [listItems]
    rcases source.list progress with ⟨_ | answer, p⟩ <;> rfl

theorem runAction_withScene {s : RunState} {a : Action}
    (h : ∀ l ∈ (Through.runAction Traced.look source s a).lookups, l.AlikeIn t) :
    runAction source { s with scene := t } a =
      ((runAction source s a).1, { (runAction source s a).2 with scene := t }) := by
  simp only [Through.runAction] at h
  simp only [runAction, listItems_withScene]
  rcases hlist : listItems source s with ⟨_ | (e | items), s₁⟩
  · rfl
  · rfl
  · rw [hlist] at h
    dsimp only at h ⊢
    cases hselect : selectCandidates a.trigger items with
    | error e => rfl
    | ok candidates =>
      rw [hselect] at h
      simp only [Traced.lookups_bind, Traced.lookups_pure, List.append_nil] at h
      have hfilled := runFilled_of_alike h
      simp only [hfilled]

/-- A value comes to the same in a scene that shows the same in place of what it looks up. -/
theorem renderValue_withScene {s : RunState} {v : Value}
    (h : ∀ l ∈ (Through.renderValue Traced.look source s v).lookups, l.AlikeIn t) :
    renderValue source { s with scene := t } v =
      ((renderValue source s v).1, { (renderValue source s v).2 with scene := t }) := by
  cases v with
  | action a => exact runAction_withScene h
  | caseMatch m =>
    simp only [Through.renderValue, Traced.lookups_bind, Through.value_fill,
      List.mem_append] at h
    have hsubject : t.fill m.subject = s.scene.fill m.subject :=
      fill_of_alike fun l hl => h l (.inl hl)
    simp only [renderValue, hsubject]
    cases hselect : m.select (s.scene.fill m.subject) with
    | none => rfl
    | some a =>
      rw [hselect] at h
      exact runAction_withScene fun l hl => h l (.inr hl)
  | text text =>
    simp only [Through.renderValue, Traced.lookups_bind, Traced.lookups_pure,
      List.append_nil] at h
    have hfilled : runFilled source t s.progress (.answering text) [] =
        runFilled source s.scene s.progress (.answering text) [] := runFilled_of_alike h
    simp only [renderValue, hfilled]
  | number n => rfl
  | date d => rfl
  | flag b => rfl
  | list items => rfl
  | record fields => rfl

/-! ## Runs under another context -/

variable {c : Context}

theorem renderVariables_under {s : RunState} {ds : List Declaration}
    (h : ∀ l ∈ (Through.renderVariables Traced.look source s ds).lookups,
      l.AlikeIn (l.scene.under c)) :
    renderVariables source { s with scene := s.scene.under c } ds =
      ((renderVariables source s ds).1,
        { (renderVariables source s ds).2 with
          scene := (renderVariables source s ds).2.scene.under c }) := by
  induction ds generalizing s with
  | nil => rfl
  | cons d rest ih =>
    simp only [Through.renderVariables, Traced.lookups_bind, Through.value_renderValue,
      List.mem_append] at h
    have hvalue : renderValue source { s with scene := s.scene.under c } d.value = _ :=
      renderValue_withScene fun l hl => by
        have halike := h l (.inl hl)
        rwa [(asks_renderValue hl).1] at halike
    rw [renderVariables, renderVariables, hvalue]
    rcases hrender : renderValue source s d.value with ⟨e | r, s₁⟩
    · rw [(kept_renderValue hrender).1.symm]
    · rw [hrender] at h
      have hrest := ih fun l hl => h l (.inr hl)
      simp only [RunState.keep, (kept_renderValue hrender).1] at hrest ⊢
      exact hrest

theorem expandParts_under {p : Progress Event} {parts : List BodyPart}
    (h : ∀ l ∈ (Through.expandParts Traced.look source s p parts).lookups,
      l.AlikeIn (l.scene.under c)) :
    expandParts source (s.under c) p parts = expandParts source s p parts := by
  induction parts generalizing p with
  | nil => rfl
  | cons part rest ih =>
    cases part with
    | plain text =>
      simp only [Through.expandParts, Traced.lookups_bind, List.mem_append] at h
      have hfill : (s.under c).fill (String.ofList text) = s.fill (String.ofList text) :=
        fill_of_alike fun l hl => by
          have halike := h l (.inl hl)
          rwa [(asks_fill hl).1] at halike
      have hrest := ih fun l hl => h l (.inr (.inl hl))
      simp only [expandParts, hfill, hrest]
    | command call =>
      simp only [Through.expandParts] at h
      simp only [expandParts]
      rcases hcall : showCommand source p (String.ofList call) with ⟨result, p₁⟩
      rw [hcall] at h
      cases hcancelled : p₁.cancelled with
      | true => simp only [if_true]
      | false =>
        simp only [hcancelled, Bool.false_eq_true, if_false, Traced.lookups_bind,
          List.mem_append] at h ⊢
        rw [ih fun l hl => h l (.inl hl)]

theorem expandBody_under {p : Progress Event} {body : List Char}
    (h : ∀ l ∈ (Through.expandBody Traced.look source s p body).lookups,
      l.AlikeIn (l.scene.under c)) :
    expandBody source (s.under c) p body = expandBody source s p body := by
  simp only [Through.expandBody, Traced.lookups_bind, List.mem_append] at h
  simp only [expandBody, expandParts_under fun l hl => h l (.inl hl)]

/-- A run comes to the same under another context if each of its look-ups shows the same there. -/
theorem run_under {host : Host} {script : String} {d : Document} {context : Context}
    {cache : ResponseCache} {p : Progress Event}
    (h : ∀ l ∈ (Through.run Traced.look host script d context cache p).lookups,
      l.AlikeIn (l.scene.under c)) :
    d.run host script c cache p = d.run host script context cache p := by
  simp only [Through.run, Traced.lookups_bind, Through.value_renderVariables,
    List.mem_append] at h
  have hvars : renderVariables host.source { scene := ⟨c, .empty⟩, progress := p }
      d.header.declarations = _ :=
    renderVariables_under (s := { scene := ⟨context, .empty⟩, progress := p })
      fun l hl => h l (.inl hl)
  rw [Document.run, Document.run, hvars]
  rcases hrender : renderVariables host.source { scene := ⟨context, .empty⟩, progress := p }
    d.header.declarations with ⟨e | u, s⟩
  · rfl
  · rw [hrender] at h
    simp only [Traced.lookups_bind, Through.value_expandBody, List.mem_append] at h
    have hbody : expandBody host.source (s.scene.under c) s.progress d.body =
        expandBody host.source s.scene s.progress d.body :=
      expandBody_under fun l hl => h l (.inr (.inl hl))
    simp only [hbody, Scene.rendered_under]

end Agreement

end PromptScript
