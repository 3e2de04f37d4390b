import PromptScript.Proofs.Progress
import PromptScript.Proofs.Steps

/-!
# Proofs.Growth

Which works each part of a run may start. A pipeline hands over candidates, the commands of a body
and the look at the items list the source, and the hand-off executes an agent. In `reaches_run` the
parts are put together. What the log may grow by follows from that.
-/

namespace PromptScript

/-! ## Pipelines -/

section Pipelines

variable {ε : Type} {invoker : Invoker ε} {p q : Progress ε}

/-- A candidate is handed over. -/
inductive Invoker.Handles (invoker : Invoker ε) : Progress.Works ε where
  | intro (log : List ε) (i : Invocation) :
      Handles invoker log [invoker.event i] (invoker.invoke log i).cancels

theorem reaches_gather {names items : List String} {g : Option Gathered}
    (h : gather invoker names p items = (g, q)) : p.Reaches invoker.Handles q := by
  induction items generalizing p g with
  | nil => cases h; exact .refl
  | cons item rest ih =>
    let i := Invocation.ofItem names item
    have hwork : invoker.Handles p.log [invoker.event i] (invoker.invoke p.log i).cancels :=
      .intro p.log i
    simp only [gather] at h
    split at h
    · rename_i hattempt
      cases h
      exact Progress.reaches_attempt hattempt hwork
    · rename_i hattempt
      have hfirst := Progress.reaches_attempt hattempt hwork
      split at h
      · rename_i hrest; cases h; exact hfirst.trans (ih hrest)
      · rename_i hrest; cases h; exact hfirst.trans (ih hrest)

theorem reaches_runVerb {o : PipelineOutput} {v : Verb} {r : Except PipelineError PipelineOutput}
    (h : runVerb invoker o p v = (r, q)) : p.Reaches invoker.Handles q := by
  cases v with
  | prompt message => cases h; exact .refl
  | grep patterns =>
    simp only [runVerb] at h
    split at h <;> cases h <;> exact .refl
  | sort arguments =>
    simp only [runVerb] at h
    split at h <;> cases h <;> exact .refl
  | xargs names =>
    simp only [runVerb] at h
    split at h
    · rename_i hgather; cases h; exact reaches_gather hgather
    · rename_i hgather; cases h; exact reaches_gather hgather

theorem reaches_runVerbs {o : PipelineOutput} {verbs : List Verb}
    {r : Except PipelineError PipelineOutput} (h : runVerbs invoker o p verbs = (r, q)) :
    p.Reaches invoker.Handles q := by
  induction verbs generalizing o p with
  | nil => cases h; exact .refl
  | cons v rest ih =>
    rw [runVerbs] at h
    split at h
    · cases h; exact .refl
    · split at h
      · rename_i hverb; cases h; exact reaches_runVerb hverb
      · rename_i hverb; exact (reaches_runVerb hverb).trans (ih h)

end Pipelines

/-! ## The source and the agents -/

variable {source : ItemSource} {p q : Progress Event}

/-- The items are listed. -/
inductive ItemSource.Lists (source : ItemSource) : Progress.Works Event where
  | intro (log : List Event) : Lists source log [.enumerated] (source.enumerate log).cancels

/-- The source is asked for its items or about one path. -/
inductive ItemSource.Asked (source : ItemSource) : Progress.Works Event where
  | lists {log events : List Event} {cancels : Bool} : source.Lists log events cancels →
      Asked source log events cancels
  | checks (log : List Event) (path : String) :
      Asked source log [.checked path] (source.isEligible log path).cancels

/-- An agent of the host is executed on a prompt. -/
inductive Host.Executes (host : Host) : Progress.Works Event where
  | intro (log : List Event) {name : String} {agent : Agent} (prompt : String) :
      host.agents.get? name = some agent →
      Executes host log (.started name prompt :: (agent prompt).chunks.map .printed)
        (agent prompt).ending.cancels

/-- The works that a run starts. -/
inductive Host.Works (host : Host) : Progress.Works Event where
  | asked {log events : List Event} {cancels : Bool} : host.source.Asked log events cancels →
      Works host log events cancels
  | executes {log events : List Event} {cancels : Bool} : host.Executes log events cancels →
      Works host log events cancels

theorem Work.cancels_map {α : Type u} {β : Type v} (f : α → β) (w : Work α) :
    (w.map f).cancels = w.cancels := by
  cases w <;> rfl

theorem asked_of_handles {log events : List Event} {cancels : Bool}
    (h : (resolver source).Handles log events cancels) : source.Asked log events cancels := by
  cases h with
  | intro _ i =>
    have hchecks : source.Asked log [.checked i.item] (source.isEligible log i.item).cancels :=
      .checks log i.item
    rw [← Work.cancels_map] at hchecks
    exact hchecks

/-- The event is no question about one path. -/
def Event.Unchecked (e : Event) : Prop := e.checkedPath? = none

theorem unchecked_of_lists (log events : List Event) (cancels : Bool)
    (h : source.Lists log events cancels) : ∀ e ∈ events, e.Unchecked := by
  cases h with
  | intro =>
    intro e he
    rw [List.mem_singleton.1 he]
    rfl

theorem unchecked_of_executes {host : Host} (log events : List Event) (cancels : Bool)
    (h : host.Executes log events cancels) : ∀ e ∈ events, e.Unchecked := by
  cases h with
  | intro _ prompt hagent =>
    intro e he
    rcases List.mem_cons.1 he with rfl | he
    · rfl
    · obtain ⟨chunk, _, rfl⟩ := List.mem_map.1 he
      rfl

/-! ## The items, the body and the hand-off -/

theorem reaches_list {answer : Option (Except SourceError (List String))}
    (h : source.list p = (answer, q)) : p.Reaches source.Lists q :=
  Progress.reaches_attempt h (.intro p.log)

theorem reaches_listItems {s s' : RunState} {answer : Option (Except SourceError (List String))}
    (h : listItems source s = (answer, s')) : s.progress.Reaches source.Lists s'.progress := by
  rcases listItems_cases h with ⟨known, _, _, rfl⟩ | ⟨q, _, hlist, rfl⟩
  · exact .refl
  · exact reaches_list hlist

theorem reaches_findPaths {pattern : String} {r : Except CommandError String}
    (h : findPaths source p pattern = (r, q)) : p.Reaches source.Lists q := by
  rw [findPaths] at h
  split at h
  · cases h; exact .refl
  · split at h <;> rename_i hlist <;> cases h <;> exact reaches_list hlist

theorem reaches_runCommand {text : String} {r : Except CommandError String}
    (h : runCommand source p text = (r, q)) : p.Reaches source.Lists q := by
  rw [runCommand] at h
  split at h
  · cases h; exact .refl
  · rw [Call.run] at h
    split at h
    · cases h; exact .refl
    · split at h
      · cases h; exact .refl
      · exact reaches_findPaths h

theorem reaches_showCommand {text result : String} (h : showCommand source p text = (result, q)) :
    p.Reaches source.Lists q := by
  rw [showCommand] at h
  split at h
  · rename_i hrun; cases h; exact reaches_runCommand hrun
  · rename_i hrun; cases h; exact reaches_runCommand hrun

theorem reaches_expandParts {s : Scene} {parts : List BodyPart} {r : Except RunError (List String)}
    (h : expandParts source s p parts = (r, q)) : p.Reaches source.Lists q := by
  induction parts generalizing p r with
  | nil => cases h; exact .refl
  | cons part rest ih =>
    cases part with
    | plain text =>
      simp only [expandParts] at h
      split at h
      · rename_i hrest; cases h; exact ih hrest
      · rename_i hrest; cases h; exact ih hrest
    | command call =>
      simp only [expandParts] at h
      have hcall : p.Reaches source.Lists (showCommand source p (String.ofList call)).2 :=
        reaches_showCommand rfl
      split at h
      · cases h; exact hcall
      · split at h
        · rename_i hrest; cases h; exact hcall.trans (ih hrest)
        · rename_i hrest; cases h; exact hcall.trans (ih hrest)

theorem reaches_expandBody {s : Scene} {body : List Char} {r : Except RunError String}
    (h : expandBody source s p body = (r, q)) : p.Reaches source.Lists q := by
  rw [expandBody] at h
  split at h
  · rename_i hparts; cases h; exact reaches_expandParts hparts
  · rename_i hparts; cases h; exact reaches_expandParts hparts

theorem reaches_agent {host : Host} {name prompt : String} {agent : Agent}
    {r : Option (Except AgentError String)} (hagent : host.agents.get? name = some agent)
    (h : agent.run p name prompt = (r, q)) : p.Reaches host.Executes q := by
  simp only [Agent.run] at h
  refine Progress.reaches_attempt h ?_
  rw [Agent.response, Work.cancels_map]
  exact .intro p.log prompt hagent

theorem reaches_handOffTo? {host : Host} {script text : String} {agent : Option String}
    {cache cache' : ResponseCache} {r : Except RunError (Option String)}
    (h : handOffTo? host script agent text cache p = (r, cache', q)) :
    p.Reaches host.Executes q := by
  cases agent with
  | none => cases h; exact .refl
  | some name =>
    have hhand : p.Reaches host.Executes (handOff host script name text cache p).2.2 := by
      rw [handOff]
      split
      · exact .refl
      · rename_i agent hagent
        split <;> rename_i hrun <;> exact reaches_agent hagent hrun
    simp only [handOffTo?] at h
    split at h <;> rename_i heq <;> cases h <;> rw [heq] at hhand <;> exact hhand

/-! ## Variables and the whole run -/

section Runs

variable {s s' : RunState}

theorem reaches_runFilled {scene : Scene} {a : Action} {candidates : List String}
    {r : Except RunError Rendered} (h : runFilled source scene p a candidates = (r, q)) :
    p.Reaches source.Asked q := by
  rw [runFilled] at h
  split at h <;> rename_i hrun <;> cases h <;>
    exact (reaches_runVerbs hrun).mono fun _ _ _ => asked_of_handles

theorem reaches_runAction {a : Action} {r : Except RunError Rendered}
    (h : runAction source s a = (r, s')) : s.progress.Reaches source.Asked s'.progress := by
  obtain ⟨answer, s₁, hlist, hcases⟩ := runAction_cases h
  have hlisted : s.progress.Reaches source.Asked s₁.progress :=
    (reaches_listItems hlist).mono fun _ _ _ => .lists
  rcases hcases with ⟨_, _, rfl⟩ | ⟨text, _, rfl⟩ | ⟨candidates, q, hfilled, rfl⟩
  · exact hlisted
  · exact hlisted
  · exact hlisted.trans (reaches_runFilled hfilled)

theorem reaches_renderValue {v : Value} {r : Except RunError Rendered}
    (h : renderValue source s v = (r, s')) : s.progress.Reaches source.Asked s'.progress := by
  rcases renderValue_cases h with ⟨a, haction⟩ | ⟨text, q, hfilled, rfl⟩ | ⟨out, _, rfl⟩
  · exact reaches_runAction haction
  · exact reaches_runFilled hfilled
  · exact .refl

theorem reaches_renderVariables {ds : List Declaration} {r : Except RunError Unit}
    (h : renderVariables source s ds = (r, s')) :
    s.progress.Reaches source.Asked s'.progress := by
  induction ds generalizing s with
  | nil => cases h; exact .refl
  | cons d rest ih =>
    rw [renderVariables] at h
    split at h
    · rename_i hvalue; cases h; exact reaches_renderValue hvalue
    · rename_i hvalue
      have hrest := ih h
      exact (reaches_renderValue hvalue).trans hrest

/-- A run asks the source for variables and commands. Then it hands its text off, or it is given
up. -/
theorem run_cases {host : Host} {script : String} {d : Document} {context : Context}
    {cache cache' : ResponseCache} {r : Except RunError RunOutput}
    (h : d.run host script context cache p = (r, cache', q)) :
    (cache' = cache ∧ p.Reaches host.source.Asked q) ∨
      ∃ text p₁ response, p.Reaches host.source.Asked p₁ ∧
        handOffTo? host script d.header.agent text cache p₁ = (response, cache', q) := by
  have hlists : ∀ log events cancels, host.source.Lists log events cancels →
      host.source.Asked log events cancels := fun _ _ _ => .lists
  rw [Document.run] at h
  split at h
  · rename_i hvars; cases h; exact .inl ⟨rfl, reaches_renderVariables hvars⟩
  · rename_i s hvars
    have hvars' : p.Reaches host.source.Asked s.progress := reaches_renderVariables hvars
    split at h
    · rename_i hbody
      cases h
      exact .inl ⟨rfl, hvars'.trans ((reaches_expandBody hbody).mono hlists)⟩
    · rename_i text p₁ hbody
      have hbody' := hvars'.trans ((reaches_expandBody hbody).mono hlists)
      split at h <;> rename_i hhand <;> cases h <;> exact .inr ⟨text, p₁, _, hbody', hhand⟩

theorem reaches_run {host : Host} {script : String} {d : Document} {context : Context}
    {cache cache' : ResponseCache} {r : Except RunError RunOutput}
    (h : d.run host script context cache p = (r, cache', q)) : p.Reaches host.Works q := by
  rcases run_cases h with ⟨_, hasked⟩ | ⟨text, p₁, response, hasked, hhand⟩
  · exact hasked.mono fun _ _ _ => .asked
  · exact (hasked.mono fun _ _ _ => .asked).trans
      ((reaches_handOffTo? hhand).mono fun _ _ _ => .executes)

end Runs

/-! ## What the log grows by -/

section Logs

variable {ε : Type} {invoker : Invoker ε} {p q : Progress ε} {o : PipelineOutput}
  {r : Except PipelineError PipelineOutput}

/-- The event shows that a candidate is handed over. -/
def Invoker.Shown (invoker : Invoker ε) (e : ε) : Prop := ∃ i, e = invoker.event i

theorem shown_of_handles (log events : List ε) (cancels : Bool)
    (h : invoker.Handles log events cancels) : ∀ e ∈ events, invoker.Shown e := by
  cases h with
  | intro _ i => exact fun e he => ⟨i, List.mem_singleton.1 he⟩

theorem grows_runVerb {v : Verb} (h : runVerb invoker o p v = (r, q)) : p.Grows q invoker.Shown :=
  (reaches_runVerb h).grows shown_of_handles

theorem grows_runVerbs {verbs : List Verb} (h : runVerbs invoker o p verbs = (r, q)) :
    p.Grows q invoker.Shown :=
  (reaches_runVerbs h).grows shown_of_handles

end Logs

theorem grows_listItems {s s' : RunState} {answer : Option (Except SourceError (List String))}
    (h : listItems source s = (answer, s')) : s.progress.Grows s'.progress Event.Unchecked :=
  (reaches_listItems h).grows unchecked_of_lists

theorem grows_expandBody {s : Scene} {body : List Char} {r : Except RunError String}
    (h : expandBody source s p body = (r, q)) : p.Grows q Event.Unchecked :=
  (reaches_expandBody h).grows unchecked_of_lists

theorem grows_handOffTo? {host : Host} {script text : String} {agent : Option String}
    {cache cache' : ResponseCache} {r : Except RunError (Option String)}
    (h : handOffTo? host script agent text cache p = (r, cache', q)) :
    p.Grows q Event.Unchecked :=
  (reaches_handOffTo? h).grows unchecked_of_executes

theorem grows_runFilled {scene : Scene} {a : Action} {candidates : List String}
    {r : Except RunError Rendered} (h : runFilled source scene p a candidates = (r, q)) :
    p.Grows q fun _ => True :=
  (reaches_runFilled h).grows fun _ _ _ _ _ _ => trivial

theorem grows_renderVariables {s s' : RunState} {ds : List Declaration} {r : Except RunError Unit}
    (h : renderVariables source s ds = (r, s')) : s.progress.Grows s'.progress fun _ => True :=
  (reaches_renderVariables h).grows fun _ _ _ _ _ _ => trivial

end PromptScript
