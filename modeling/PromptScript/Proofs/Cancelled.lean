import PromptScript.Proofs.Growth

/-!
# Proofs.Cancelled

What a run is given up for. Every part of it that comes to no result leaves the token cancelled
(`cancelled_of_run_eq_error`), so a run whose token is not cancelled at the end has completed.
-/

namespace PromptScript

/-! ## Pipelines -/

section Pipelines

variable {ε : Type} {invoker : Invoker ε} {p q : Progress ε}

theorem cancelled_of_gather_eq_none {names items : List String}
    (h : gather invoker names p items = (none, q)) : q.cancelled = true := by
  induction items generalizing p with
  | nil => cases h
  | cons item rest ih =>
    simp only [gather] at h
    split at h
    · rename_i hattempt
      cases h
      exact Progress.cancelled_of_attempt_eq_none hattempt
    · split at h
      · rename_i hrest; cases h; exact ih hrest
      · cases h

theorem readPattern_ne_cancelled (pattern : String) :
    readPattern pattern ≠ .error .cancelled := by
  intro h
  rw [readPattern] at h
  split at h <;> cases h

theorem readPatterns_ne_cancelled (patterns : List String) :
    readPatterns patterns ≠ .error .cancelled := by
  induction patterns with
  | nil => intro h; cases h
  | cons pattern rest ih =>
    intro h
    rw [readPatterns] at h
    split at h
    · rename_i hfirst; cases h; exact readPattern_ne_cancelled pattern hfirst
    · split at h
      · rename_i hrest; cases h; exact ih hrest
      · cases h

theorem readOrders_ne_cancelled (arguments : List String) :
    readOrders arguments ≠ .error .cancelled := by
  induction arguments with
  | nil => intro h; cases h
  | cons argument rest ih =>
    intro h
    rw [readOrders] at h
    split at h
    · cases h
    · split at h
      · rename_i hrest; cases h; exact ih hrest
      · cases h

theorem cancelled_of_runVerb {o : PipelineOutput} {v : Verb}
    (h : runVerb invoker o p v = (.error .cancelled, q)) : q.cancelled = true := by
  cases v with
  | prompt message => cases h
  | grep patterns =>
    simp only [runVerb] at h
    split at h
    · rename_i hread; cases h; exact absurd hread (readPatterns_ne_cancelled patterns)
    · cases h
  | sort arguments =>
    simp only [runVerb] at h
    split at h
    · rename_i hread; cases h; exact absurd hread (readOrders_ne_cancelled arguments)
    · cases h
  | xargs names =>
    simp only [runVerb] at h
    split at h
    · rename_i hgather; cases h; exact cancelled_of_gather_eq_none hgather
    · cases h

theorem cancelled_of_runVerbs {o : PipelineOutput} {verbs : List Verb}
    (h : runVerbs invoker o p verbs = (.error .cancelled, q)) : q.cancelled = true := by
  induction verbs generalizing o p with
  | nil => cases h
  | cons v rest ih =>
    rw [runVerbs] at h
    split at h
    · rename_i hp; cases h; exact hp
    · split at h
      · rename_i hverb; cases h; exact cancelled_of_runVerb hverb
      · exact ih h

end Pipelines

/-! ## Variables -/

section Runs

variable {source : ItemSource} {p q : Progress Event} {s s' : RunState} {e : RunError}

theorem cancelled_of_runFilled {scene : Scene} {a : Action} {candidates : List String}
    (h : runFilled source scene p a candidates = (.error e, q)) : q.cancelled = true := by
  rw [runFilled] at h
  split at h
  · cases h
  · rename_i hrun; cases h; exact cancelled_of_runVerbs hrun
  · cases h

theorem cancelled_of_listItems (h : listItems source s = (none, s')) :
    s'.progress.cancelled = true := by
  rcases listItems_cases h with ⟨known, _, hnone, _⟩ | ⟨q, _, hlist, rfl⟩
  · cases hnone
  · exact Progress.cancelled_of_attempt_eq_none hlist

theorem cancelled_of_runAction {a : Action} (h : runAction source s a = (.error e, s')) :
    s'.progress.cancelled = true := by
  obtain ⟨answer, s₁, hlist, hcases⟩ := runAction_cases h
  rcases hcases with ⟨rfl, _, rfl⟩ | ⟨text, hok, _⟩ | ⟨candidates, q, hfilled, rfl⟩
  · exact cancelled_of_listItems hlist
  · cases hok
  · exact cancelled_of_runFilled hfilled

theorem cancelled_of_renderValue {v : Value} (h : renderValue source s v = (.error e, s')) :
    s'.progress.cancelled = true := by
  rcases renderValue_cases h with ⟨a, haction⟩ | ⟨text, q, hfilled, rfl⟩ | ⟨out, hok, _⟩
  · exact cancelled_of_runAction haction
  · exact cancelled_of_runFilled hfilled
  · cases hok

theorem cancelled_of_renderVariables {ds : List Declaration}
    (h : renderVariables source s ds = (.error e, s')) : s'.progress.cancelled = true := by
  induction ds generalizing s with
  | nil => cases h
  | cons d rest ih =>
    rw [renderVariables] at h
    split at h
    · rename_i hvalue; cases h; exact cancelled_of_renderValue hvalue
    · exact ih h

/-! ## The body and the whole run -/

theorem cancelled_of_expandParts {scene : Scene} {parts : List BodyPart}
    (h : expandParts source scene p parts = (.error e, q)) : q.cancelled = true := by
  induction parts generalizing p with
  | nil => cases h
  | cons part rest ih =>
    cases part with
    | plain text =>
      simp only [expandParts] at h
      split at h
      · rename_i hrest; cases h; exact ih hrest
      · cases h
    | command call =>
      simp only [expandParts] at h
      split at h
      · rename_i hcancelled; cases h; exact hcancelled
      · split at h
        · rename_i hrest; cases h; exact ih hrest
        · cases h

theorem cancelled_of_expandBody {scene : Scene} {body : List Char}
    (h : expandBody source scene p body = (.error e, q)) : q.cancelled = true := by
  rw [expandBody] at h
  split at h
  · rename_i hparts; cases h; exact cancelled_of_expandParts hparts
  · cases h

theorem cancelled_of_handOffTo? {host : Host} {script text : String} {agent : Option String}
    {cache cache' : ResponseCache}
    (h : handOffTo? host script agent text cache p = (.error e, cache', q)) :
    q.cancelled = true := by
  cases agent with
  | none => cases h
  | some agent =>
    simp only [handOffTo?, handOff] at h
    split at h
    · rename_i hhand
      cases h
      split at hhand
      · cases hhand
      · split at hhand
        · rename_i hrun
          cases hhand
          rw [Agent.run] at hrun
          exact Progress.cancelled_of_attempt_eq_none hrun
        · cases hhand
        · cases hhand
    · cases h

/-- Only a cancelled token makes a run give up. -/
theorem cancelled_of_run_eq_error {host : Host} {script : String} {d : Document}
    {context : Context} {cache cache' : ResponseCache}
    (h : d.run host script context cache p = (.error e, cache', q)) : q.cancelled = true := by
  rw [Document.run] at h
  split at h
  · rename_i hvars; cases h; exact cancelled_of_renderVariables hvars
  · split at h
    · rename_i hbody; cases h; exact cancelled_of_expandBody hbody
    · split at h
      · rename_i hhand; cases h; exact cancelled_of_handOffTo? hhand
      · cases h

/-- A run whose token is not cancelled at the end has completed. -/
theorem run_completes {host : Host} {script : String} {d : Document} {context : Context}
    {cache : ResponseCache} (h : (d.run host script context cache p).2.2.cancelled = false) :
    ∃ out cache' q, d.run host script context cache p = (.ok out, cache', q) ∧
      q.cancelled = false := by
  rcases hrun : d.run host script context cache p with ⟨e | out, cache', q⟩
  · rw [hrun, cancelled_of_run_eq_error hrun] at h
    cases h
  · rw [hrun] at h
    exact ⟨out, cache', q, rfl, h⟩

end Runs

end PromptScript
