import PromptScript.Proofs.Cancelled
import PromptScript.Proofs.Turns

/-!
# Proofs.ActionResult

What an action comes to, before it is shown. `resultOn` is the pipeline of an action over one answer
of the source, with the fault kept apart that a run shows as a diagnostic; running the action is
listing the items and showing this result (`runAction_of_answer`). In a run that goes on after it, a
turn with an action has such a result, and the text of its variable is what is shown of it
(`shown_of_chosen`).
-/

namespace PromptScript

/-- Why an action has no output. -/
inductive ActionFault where
  | source (e : SourceError)
  | pipeline (e : PipelineError)

def ActionFault.message : ActionFault → String
  | .source e => e.message
  | .pipeline e => e.message

/-- What an action comes to if this is what the source answers. -/
def resultOn (source : ItemSource) (s : Scene) (p : Progress Event) (a : Action) :
    Except SourceError (List String) → Except ActionFault PipelineOutput × Progress Event
  | .error e => (.error (.source e), p)
  | .ok items =>
    match selectCandidates a.trigger items with
    | .error e => (.error (.pipeline e), p)
    | .ok candidates =>
      match runPipeline (resolver source) (a.mapVerbs (Verb.filled s)) candidates p with
      | (.error e, p) => (.error (.pipeline e), p)
      | (.ok o, p) => (.ok o, p)

/-- A result as a run shows it. Only cancellation is not shown. -/
def shownResult : Except ActionFault PipelineOutput → Except RunError Rendered
  | .ok o => .ok ⟨o.text, o.failures⟩
  | .error (.pipeline .cancelled) => .error .cancelled
  | .error f => .ok { text := diagnostic f.message }

/-- The action that a value stands for in a scene: a case match, the arm that its subject selects;
`none` if it stands for none. -/
def Value.chosen? (s : Scene) : Value → Option Action
  | .action a => some a
  | .caseMatch m => m.select (s.fill m.subject)
  | _ => none

namespace Turn

variable (source : ItemSource) (t : Turn)

/-- The action of the turn. -/
def chosen? : Option Action := t.declaration.value.chosen? t.state.scene

/-- The answer of the source that the turn has at hand, or is given when it asks. -/
def answer? : Option (Except SourceError (List String)) := (listItems source t.state).1

/-- What an action comes to in this turn if this is what the source answers. -/
def result (a : Action) (answer : Except SourceError (List String)) :
    Except ActionFault PipelineOutput :=
  (resultOn source t.state.scene (listItems source t.state).2.progress a answer).1

end Turn

section Actions

variable {source : ItemSource} {s s₁ : RunState} {a : Action}

theorem selectCandidates_ne_cancelled (trigger : String) (items : List String) :
    selectCandidates trigger items ≠ .error .cancelled := by
  intro h
  rw [selectCandidates] at h
  split at h
  · rename_i hread
    cases h
    exact readPattern_ne_cancelled trigger hread
  · cases h

/-- Running an action shows its result on the answer of the source. -/
theorem runAction_of_answer {answer : Except SourceError (List String)}
    (h : listItems source s = (some answer, s₁)) :
    runAction source s a =
      (shownResult (resultOn source s₁.scene s₁.progress a answer).1,
        { s₁ with progress := (resultOn source s₁.scene s₁.progress a answer).2 }) := by
  rw [runAction, h]
  cases answer with
  | error e => rfl
  | ok items =>
    dsimp only
    rw [resultOn]
    cases hselect : selectCandidates a.trigger items with
    | error e =>
      cases e with
      | cancelled => exact absurd hselect (selectCandidates_ne_cancelled _ _)
      | invalidPattern pattern fault => rfl
      | invalidArgument argument => rfl
    | ok candidates =>
      dsimp only
      rw [runFilled]
      rcases runPipeline (resolver source) (a.mapVerbs (Verb.filled s₁.scene)) candidates
        s₁.progress with ⟨(_ | _ | _) | o, q⟩ <;> rfl

theorem renderValue_of_chosen {v : Value} (h : v.chosen? s.scene = some a) :
    renderValue source s v = runAction source s a := by
  cases v with
  | action b => cases h; rfl
  | caseMatch m =>
    rw [Value.chosen?] at h
    rw [renderValue, h]
  | text | number | date | flag | list | record => cases h

/-- The text of a turn with an action is what is shown of the action's result. -/
theorem shown_of_chosen {t : Turn} {r : Rendered} (hrendered : t.rendered source = .ok r)
    (hchosen : t.chosen? = some a) :
    ∃ answer, t.answer? source = some answer ∧ shownResult (t.result source a answer) = .ok r := by
  rw [Turn.rendered, renderValue_of_chosen hchosen] at hrendered
  rcases hlist : listItems source t.state with ⟨_ | answer, s₁⟩
  · rw [runAction, hlist] at hrendered
    cases hrendered
  · rw [runAction_of_answer hlist, (kept_listItems hlist).1] at hrendered
    refine ⟨answer, by rw [Turn.answer?, hlist], ?_⟩
    rw [Turn.result, hlist]
    exact hrendered

end Actions

end PromptScript
