import PromptScript.Pipeline.Engine
import PromptScript.Proofs.Progress
import PromptScript.Proofs.Sorting

/-!
# Proofs.PipelineMeaning

What a completed pipeline comes to. Each verb keeps some of the candidates, up to their order
(`Verb.keeps`), and says what the text is after it (`Shows`); `runVerb_eq_ok` is the step. Along a
whole pipeline the kept candidates add up, and the last verb alone decides the text
(`pipeline_meaning`).
-/

namespace PromptScript

/-! ## What `xargs` gathers -/

namespace Invoker

variable {ε : Type} (invoker : Invoker ε) (names : List String)

/-- Each item with the answer to it, `none` if none is given; an item is handled after the log shows
the ones before it. -/
def answers (log : List ε) : List String → List (String × Option (Except InvokeError String))
  | [] => []
  | item :: rest =>
    let i := Invocation.ofItem names item
    (item, (invoker.invoke log i).result?) :: answers (log ++ [invoker.event i]) rest

/-- What the log shows of handling the items. -/
def events (items : List String) : List ε :=
  items.map fun item => invoker.event (Invocation.ofItem names item)

end Invoker

/-- The result of an item that could be handled. -/
def succeeded? : String × Option (Except InvokeError String) → Option String
  | (_, some (.ok result)) => some result
  | _ => none

/-- The failure of an item that could not be handled. -/
def failed? : String × Option (Except InvokeError String) → Option ItemFailure
  | (item, some (.error e)) => some ⟨item, e.message⟩
  | _ => none

theorem gather_eq_some {ε : Type} {invoker : Invoker ε} {names items : List String}
    {p q : Progress ε} {g : Gathered} (h : gather invoker names p items = (some g, q)) :
    q.log = p.log ++ invoker.events names items ∧
      g.results = (invoker.answers names p.log items).filterMap succeeded? ∧
      g.failures = (invoker.answers names p.log items).filterMap failed? := by
  induction items generalizing p g with
  | nil =>
    simp only [gather] at h
    cases h
    exact ⟨(List.append_nil _).symm, rfl, rfl⟩
  | cons item rest ih =>
    simp only [gather] at h
    split at h
    · cases h
    · rename_i outcome p₁ hattempt
      obtain ⟨_, hresult, rfl⟩ := Progress.attempt_eq_some hattempt
      split at h
      · cases h
      · rename_i g₁ q₁ hrest
        cases h
        obtain ⟨hlog, hresults, hfailures⟩ := ih hrest
        refine ⟨?_, ?_, ?_⟩
        · simp [hlog, Invoker.events]
        · rw [Invoker.answers, hresult]
          cases outcome with
          | ok result =>
            have hfirst : succeeded? (item, some (.ok result)) = some result := rfl
            rw [List.filterMap_cons_some hfirst, ← hresults]; rfl
          | error e => rw [List.filterMap_cons_none rfl, ← hresults]; rfl
        · rw [Invoker.answers, hresult]
          cases outcome with
          | ok result => rw [List.filterMap_cons_none rfl, ← hfailures]; rfl
          | error e =>
            have hfirst : failed? (item, some (.error e)) = some ⟨item, e.message⟩ := rfl
            rw [List.filterMap_cons_some hfirst, ← hfailures]; rfl

/-! ## What a verb keeps and shows -/

/-- Whether a pattern is found in an item. -/
def matchesItem (item pattern : String) : Bool :=
  match Pattern.read pattern with
  | .ok p => p.found item
  | .error _ => false

/-- Whether a verb keeps an item: a `grep` keeps those that one of its patterns is found in. -/
def Verb.keeps (v : Verb) (item : String) : Bool :=
  match v with
  | .grep patterns => patterns.any (matchesItem item)
  | _ => true

/-- The text after a verb: the message of a prompt, the list of candidates after `grep` and `sort`,
and after `xargs` the results of the candidates that could be handled, in their order. -/
def Shows {ε : Type} (invoker : Invoker ε) (o : PipelineOutput) (p : Progress ε) : Verb → Prop
  | .prompt message => o.text = message
  | .grep _ => o.text = joinTexts ", " o.candidates
  | .sort _ => o.text = joinTexts ", " o.candidates
  | .xargs names => ∃ before, p.log = before ++ invoker.events names o.candidates ∧
      o.text = joinTexts "\n" ((invoker.answers names before o.candidates).filterMap succeeded?)

theorem readPatterns_eq_ok {patterns : List String} {ps : List Pattern}
    (h : readPatterns patterns = .ok ps) (item : String) :
    (ps.any fun p => p.found item) = patterns.any (matchesItem item) := by
  induction patterns generalizing ps with
  | nil => simp only [readPatterns] at h; cases h; rfl
  | cons pattern rest ih =>
    simp only [readPatterns, readPattern] at h
    cases hread : Pattern.read pattern with
    | error e => simp [hread] at h
    | ok p =>
      simp only [hread] at h
      split at h
      · cases h
      · rename_i ps' hrest
        cases h
        rw [List.any_cons, List.any_cons, ih hrest, matchesItem, hread]

/-- One verb: the candidates it keeps, up to their order, and the text it shows. -/
theorem runVerb_eq_ok {ε : Type} {invoker : Invoker ε} {o o' : PipelineOutput} {p q : Progress ε}
    {v : Verb} (h : runVerb invoker o p v = (.ok o', q)) :
    o'.candidates.Perm (o.candidates.filter v.keeps) ∧ Shows invoker o' q v := by
  have hall : o.candidates.filter (fun _ => true) = o.candidates := by simp
  cases v with
  | prompt message =>
    simp only [runVerb] at h
    cases h
    exact ⟨.of_eq hall.symm, rfl⟩
  | grep patterns =>
    simp only [runVerb] at h
    split at h
    · cases h
    · rename_i ps hread
      cases h
      refine ⟨.of_eq ?_, rfl⟩
      exact List.filter_congr fun item _ => readPatterns_eq_ok hread item
  | sort arguments =>
    simp only [runVerb] at h
    split at h
    · cases h
    · rename_i os hread
      cases h
      exact ⟨(sortItems_perm os o.candidates).trans (.of_eq hall.symm), rfl⟩
  | xargs names =>
    simp only [runVerb] at h
    split at h
    · cases h
    · rename_i g q' hgather
      cases h
      obtain ⟨hlog, hresults, _⟩ := gather_eq_some hgather
      refine ⟨.of_eq hall.symm, p.log, hlog, ?_⟩
      rw [← hresults]; rfl

/-! ## The whole pipeline -/

theorem runVerbs_cons_eq_ok {ε : Type} {invoker : Invoker ε} {o o' : PipelineOutput}
    {p q : Progress ε} {v : Verb} {rest : List Verb}
    (h : runVerbs invoker o p (v :: rest) = (.ok o', q)) :
    ∃ o₁ p₁, runVerb invoker o p v = (.ok o₁, p₁) ∧
      runVerbs invoker o₁ p₁ rest = (.ok o', q) := by
  rw [runVerbs] at h
  split at h
  · cases h
  · split at h
    · cases h
    · rename_i o₁ p₁ hverb
      exact ⟨o₁, p₁, hverb, h⟩

theorem runVerbs_cons_of_ok {ε : Type} {invoker : Invoker ε} {o o₁ : PipelineOutput}
    {p p₁ : Progress ε} {v : Verb} (hp : p.cancelled = false)
    (h : runVerb invoker o p v = (.ok o₁, p₁)) (rest : List Verb) :
    runVerbs invoker o p (v :: rest) = runVerbs invoker o₁ p₁ rest := by
  rw [runVerbs, if_neg (by simp [hp]), h]

theorem runVerbs_cons_of_error {ε : Type} {invoker : Invoker ε} {o : PipelineOutput}
    {p q : Progress ε} {v : Verb} {e : PipelineError} (hp : p.cancelled = false)
    (h : runVerb invoker o p v = (.error e, q)) (rest : List Verb) :
    runVerbs invoker o p (v :: rest) = (.error e, q) := by
  rw [runVerbs, if_neg (by simp [hp]), h]

theorem runVerbs_eq_ok {ε : Type} {invoker : Invoker ε} {o o' : PipelineOutput} {p q : Progress ε}
    {verbs : List Verb} (h : runVerbs invoker o p verbs = (.ok o', q)) :
    o'.candidates.Perm (o.candidates.filter fun item => verbs.all fun v => v.keeps item) ∧
      ∀ v, verbs.getLast? = some v → Shows invoker o' q v := by
  induction verbs generalizing o p with
  | nil =>
    simp only [runVerbs] at h
    cases h
    refine ⟨.of_eq (List.filter_eq_self.2 fun _ _ => rfl).symm, ?_⟩
    intro v hv
    cases hv
  | cons v rest ih =>
    obtain ⟨o₁, p₁, hverb, hrest⟩ := runVerbs_cons_eq_ok h
    obtain ⟨hstep, hshows⟩ := runVerb_eq_ok hverb
    obtain ⟨hperm, hlast⟩ := ih hrest
    -- the text of this verb only counts if no other follows
    constructor
    · refine (hperm.trans (hstep.filter _)).trans (.of_eq ?_)
      rw [List.filter_filter]
      exact List.filter_congr fun item _ => Bool.and_comm _ _
    · intro w hw
      cases rest with
      | nil =>
        simp only [runVerbs] at hrest
        cases hrest
        cases hw
        exact hshows
      | cons w' rest => exact hlast w (by rwa [List.getLast?_cons_cons] at hw)

/-- A completed pipeline holds the items that every `grep` keeps, each as often as before, and its
text is decided by the last verb alone. -/
theorem pipeline_meaning {ε : Type} (invoker : Invoker ε) (a : Action) (items : List String)
    (p q : Progress ε) (o : PipelineOutput) (h : runPipeline invoker a items p = (.ok o, q)) :
    o.candidates.Perm (items.filter fun item => a.verbs.all fun v => v.keeps item) ∧
      Shows invoker o q (a.verbs.getLast a.verbs_ne_nil) := by
  obtain ⟨hperm, hlast⟩ := runVerbs_eq_ok h
  exact ⟨hperm, hlast _ (List.getLast?_eq_some_getLast a.verbs_ne_nil)⟩

/-- Handles an item the first time that it comes, if it is no Go file. -/
def onceOnly : Invoker String where
  event i := i.item
  invoke log i := .finishes <|
    if log.contains i.item then .error (.failed "seen")
    else if i.item.endsWith ".go" then .error (.unresolved i.item)
    else .ok ("done " ++ i.item)

/-- Each kind of verb once, a prompt not being the last. -/
def sortedSources : Action :=
  ⟨"", [.grep ["a", "b"], .prompt "m", .sort ["-extension"], .xargs ["f"]], List.cons_ne_nil _ _⟩

theorem pipeline_meaning_duplicates :
    ∃ o q, runPipeline onceOnly sortedSources ["b.rs", "a.go", "c.rs", "b.rs", "a.rs"] {} =
        (.ok o, q) ∧
      o.text = "done b.rs\ndone a.rs" ∧
      o.candidates.Perm ["b.rs", "a.go", "b.rs", "a.rs"] ∧ Shows onceOnly o q (.xargs ["f"]) := by
  have htext : (runPipeline onceOnly sortedSources ["b.rs", "a.go", "c.rs", "b.rs", "a.rs"]
      {}).1.toOption.map (·.text) = some "done b.rs\ndone a.rs" := by decide +kernel
  have hkept : (["b.rs", "a.go", "c.rs", "b.rs", "a.rs"].filter fun item =>
      sortedSources.verbs.all fun v => v.keeps item) = ["b.rs", "a.go", "b.rs", "a.rs"] := by
    decide +kernel
  rcases h : runPipeline onceOnly sortedSources ["b.rs", "a.go", "c.rs", "b.rs", "a.rs"] {} with
    ⟨e | o, q⟩
  · rw [h] at htext; cases htext
  · rw [h] at htext
    obtain ⟨hperm, hshows⟩ := pipeline_meaning onceOnly sortedSources _ {} q o h
    rw [hkept] at hperm
    exact ⟨o, q, rfl, Option.some.inj htext, hperm, hshows⟩

end PromptScript
