import PromptScript.Run.Basic

/-!
# Proofs.Steps

What the parts of a run that branch can do, one lemma for each. What holds of every run is read off
these cases and not off the definitions.
-/

namespace PromptScript

variable {source : ItemSource} {s s' : RunState} {r : Except RunError Rendered}

/-- The items are those that are listed already, or the source is asked. -/
theorem listItems_cases {answer : Option (Except SourceError (List String))}
    (h : listItems source s = (answer, s')) :
    (∃ known, s.listing = some known ∧ answer = some known ∧ s' = s) ∨
      ∃ q, s.listing = none ∧ source.list s.progress = (answer, q) ∧
        s' = { s with listing := answer, progress := q } := by
  obtain ⟨scene, listing, failures, progress⟩ := s
  cases listing with
  | some known => cases h; exact .inl ⟨known, rfl, rfl, rfl⟩
  | none =>
    simp only [listItems] at h
    rcases hlist : source.list progress with ⟨_ | found, q⟩ <;> rw [hlist] at h <;> cases h
    · exact .inr ⟨q, rfl, rfl, rfl⟩
    · exact .inr ⟨q, rfl, rfl, rfl⟩

/-- An action asks for the items. Without an answer it is given up, and a fault of the source or of
its trigger is shown; otherwise its pipeline runs over the candidates. -/
theorem runAction_cases {a : Action} (h : runAction source s a = (r, s')) :
    ∃ answer s₁, listItems source s = (answer, s₁) ∧
      (answer = none ∧ r = .error .cancelled ∧ s' = s₁ ∨
        (∃ text, r = .ok { text := text } ∧ s' = s₁) ∨
        ∃ candidates q, runFilled source s₁.scene s₁.progress a candidates = (r, q) ∧
          s' = { s₁ with progress := q }) := by
  rw [runAction] at h
  split at h
  · rename_i hlist; cases h; exact ⟨_, _, hlist, .inl ⟨rfl, rfl, rfl⟩⟩
  · rename_i hlist; cases h; exact ⟨_, _, hlist, .inr (.inl ⟨_, rfl, rfl⟩)⟩
  · rename_i items s₁ hlist
    split at h
    · cases h; exact ⟨_, _, hlist, .inr (.inl ⟨_, rfl, rfl⟩)⟩
    · rename_i candidates _
      obtain ⟨hfilled, hstate⟩ := Prod.mk.inj h
      exact ⟨_, _, hlist, .inr (.inr ⟨candidates, _, Prod.ext hfilled rfl, hstate.symm⟩)⟩

/-- Rendering a value runs an action, or answers with a text, or needs no run at all. -/
theorem renderValue_cases {v : Value} (h : renderValue source s v = (r, s')) :
    (∃ a, runAction source s a = (r, s')) ∨
      (∃ text q, runFilled source s.scene s.progress (.answering text) [] = (r, q) ∧
        s' = { s with progress := q }) ∨
      ∃ out, r = .ok out ∧ s' = s := by
  cases v with
  | action a => exact .inl ⟨a, h⟩
  | caseMatch m =>
    rw [renderValue] at h
    split at h
    · exact .inl ⟨_, h⟩
    · cases h; exact .inr (.inr ⟨_, rfl, rfl⟩)
  | text t =>
    obtain ⟨hfilled, hstate⟩ := Prod.mk.inj h
    exact .inr (.inl ⟨t, _, Prod.ext hfilled rfl, hstate.symm⟩)
  | number n => cases h; exact .inr (.inr ⟨_, rfl, rfl⟩)
  | date t => cases h; exact .inr (.inr ⟨_, rfl, rfl⟩)
  | flag b => cases h; exact .inr (.inr ⟨_, rfl, rfl⟩)
  | list items => cases h; exact .inr (.inr ⟨_, rfl, rfl⟩)
  | record fields => cases h; exact .inr (.inr ⟨_, rfl, rfl⟩)

end PromptScript
