import PromptScript.Proofs.Scope
import PromptScript.Proofs.Steps

/-!
# Proofs.Rendering

How the variables of a run come about. Rendering a value leaves the scene alone, and rendering
declarations adds one text for each under its canonical name (`holds_renderVariables`), without
touching the others (`get?_of_renderVariables`).
-/

namespace PromptScript

/-! ## The scene -/

/-- Asking for the items leaves the variables and the failures so far alone. -/
theorem kept_listItems {source : ItemSource} {s s' : RunState}
    {answer : Option (Except SourceError (List String))} (h : listItems source s = (answer, s')) :
    s'.scene = s.scene ∧ s'.failures = s.failures := by
  rcases listItems_cases h with ⟨known, _, _, rfl⟩ | ⟨q, _, _, rfl⟩
  · exact ⟨rfl, rfl⟩
  · exact ⟨rfl, rfl⟩

theorem kept_runAction {source : ItemSource} {s s' : RunState} {a : Action}
    {r : Except RunError Rendered} (h : runAction source s a = (r, s')) :
    s'.scene = s.scene ∧ s'.failures = s.failures := by
  obtain ⟨answer, s₁, hlist, hcases⟩ := runAction_cases h
  have hkept := kept_listItems hlist
  rcases hcases with ⟨_, _, rfl⟩ | ⟨text, _, rfl⟩ | ⟨candidates, q, _, rfl⟩
  · exact hkept
  · exact hkept
  · exact hkept

theorem kept_renderValue {source : ItemSource} {s s' : RunState} {v : Value}
    {r : Except RunError Rendered} (h : renderValue source s v = (r, s')) :
    s'.scene = s.scene ∧ s'.failures = s.failures := by
  rcases renderValue_cases h with ⟨a, haction⟩ | ⟨text, q, _, rfl⟩ | ⟨out, _, rfl⟩
  · exact kept_runAction haction
  · exact ⟨rfl, rfl⟩
  · exact ⟨rfl, rfl⟩

/-! ## Rendering in order -/

/-- One declaration after the other: each is rendered in the state that the one before it left. -/
theorem renderVariables_cons_eq_ok_iff {source : ItemSource} {s s' : RunState} {d : Declaration}
    {rest : List Declaration} :
    renderVariables source s (d :: rest) = (.ok (), s') ↔
      ∃ r s₁, renderValue source s d.value = (.ok r, s₁) ∧
        renderVariables source (s₁.keep d.name r) rest = (.ok (), s') := by
  rw [renderVariables]
  rcases renderValue source s d.value with ⟨e | r, s₁⟩
  · simp
  · constructor
    · intro h
      exact ⟨r, s₁, rfl, h⟩
    · rintro ⟨_, _, heq, h⟩
      cases heq
      exact h

theorem renderVariables_append {source : ItemSource} {s s₁ : RunState}
    {before : List Declaration} (h : renderVariables source s before = (.ok (), s₁))
    (rest : List Declaration) :
    renderVariables source s (before ++ rest) = renderVariables source s₁ rest := by
  induction before generalizing s with
  | nil => simp only [renderVariables] at h; cases h; rfl
  | cons d before ih =>
    obtain ⟨r, s₂, hvalue, hbefore⟩ := renderVariables_cons_eq_ok_iff.1 h
    rw [List.cons_append, renderVariables, hvalue]
    exact ih hbefore

/-- The texts of exactly these variables are rendered. -/
def Scene.Holds (s : Scene) (names : List String) : Prop :=
  ∀ name, s.rendered.contains name = true ↔ name ∈ names

theorem Scene.holds_nil (context : Context) : Scene.Holds ⟨context, .empty⟩ [] := by
  intro name
  simp [NameMap.contains, NameMap.get?, NameMap.find?, NameMap.empty]

theorem Scene.Holds.keep {s : RunState} {names : List String} (h : s.scene.Holds names)
    (name : String) (r : Rendered) :
    (s.keep name r).scene.Holds (names ++ [canonicalName name]) := by
  intro other
  have hother := h other
  rw [NameMap.contains] at hother
  simp only [RunState.keep, NameMap.contains, NameMap.get?_insert]
  by_cases hn : other = canonicalName name
  · simp [hn]
  · simp [hn, hother]

theorem holds_renderVariables {source : ItemSource} {s s' : RunState} {ds : List Declaration}
    {names : List String} (hs : s.scene.Holds names)
    (h : renderVariables source s ds = (.ok (), s')) :
    s'.scene.Holds (names ++ declaredNames ds) ∧ s'.scene.context = s.scene.context := by
  induction ds generalizing s names with
  | nil => simp only [renderVariables] at h; cases h; simpa [declaredNames] using hs
  | cons d rest ih =>
    obtain ⟨r, s₁, hvalue, hrest⟩ := renderVariables_cons_eq_ok_iff.1 h
    have hkept := (kept_renderValue hvalue).1
    have hs₁ : s₁.scene.Holds names := by rw [hkept]; exact hs
    obtain ⟨hholds, hcontext⟩ := ih (hs₁.keep d.name r) hrest
    refine ⟨by simpa [declaredNames] using hholds, ?_⟩
    rw [hcontext, ← hkept]; rfl

/-- Declarations leave the variables of other names alone. -/
theorem get?_of_renderVariables {source : ItemSource} {s s' : RunState} {ds : List Declaration}
    (h : renderVariables source s ds = (.ok (), s')) {name : String}
    (hname : name ∉ declaredNames ds) :
    s'.scene.rendered.get? name = s.scene.rendered.get? name := by
  induction ds generalizing s with
  | nil => simp only [renderVariables] at h; cases h; rfl
  | cons d rest ih =>
    obtain ⟨r, s₁, hvalue, hrest⟩ := renderVariables_cons_eq_ok_iff.1 h
    have hkept := (kept_renderValue hvalue).1
    simp only [declaredNames, List.map_cons, List.mem_cons, not_or] at hname
    rw [ih hrest hname.2, RunState.keep]
    dsimp only
    rw [NameMap.get?_insert, if_neg hname.1, hkept]

/-! ## The run -/

/-- A run that completes has rendered all variables and filled in the body. -/
theorem run_eq_ok {host : Host} {script : String} {d : Document} {context : Context}
    {cache cache' : ResponseCache} {p q : Progress Event} {out : RunOutput}
    (h : d.run host script context cache p = (.ok out, cache', q)) :
    ∃ s p₁ text, renderVariables host.source { scene := ⟨context, .empty⟩, progress := p }
        d.header.declarations = (.ok (), s) ∧
      expandBody host.source s.scene s.progress d.body = (.ok text, p₁) ∧
      handOffTo? host script d.header.agent text cache p₁ = (.ok out.response, cache', q) ∧
      out = ⟨s.scene.rendered, text, s.failures, out.response⟩ := by
  rw [Document.run] at h
  split at h
  · cases h
  · rename_i s hvars
    split at h
    · cases h
    · rename_i text p₁ hbody
      split at h
      · cases h
      · rename_i response cache₁ p₂ hagent
        cases h
        exact ⟨s, p₁, text, hvars, hbody, hagent, rfl⟩

end PromptScript
