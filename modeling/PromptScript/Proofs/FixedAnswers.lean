import PromptScript.Proofs.Cancelled
import PromptScript.Proofs.PipelineMeaning
import PromptScript.Proofs.Rendering

/-!
# Proofs.FixedAnswers

Sources that answer the same whenever they are asked. What such a source is asked before makes no
difference to what comes after: two parts of two runs that start from the same scene come to the same,
whatever their logs hold and whether or not the items are listed already, as long as neither token is
cancelled. `renderValue_eq_of_fixed` says so of a variable, `showCommand_eq_of_fixed` of a command.
-/

namespace PromptScript

theorem Work.result?_map {α : Type u} {β : Type v} (f : α → β) (w : Work α) :
    (w.map f).result? = w.result?.map f := by
  cases w <;> rfl

/-- The answers of the source do not depend on what happened before. -/
structure ItemSource.Fixed (source : ItemSource) : Prop where
  enumerate : ∀ log log', (source.enumerate log).result? = (source.enumerate log').result?
  isEligible : ∀ log log' path,
    (source.isEligible log path).result? = (source.isEligible log' path).result?

namespace ItemSource

/-- The answer of a source that has not been asked before. -/
def listing? (source : ItemSource) : Option (Except SourceError (List String)) :=
  (source.enumerate []).result?

theorem Fixed.listing?_eq {source : ItemSource} (hfixed : source.Fixed) {p q : Progress Event}
    {answer : Except SourceError (List String)} (h : source.list p = (some answer, q)) :
    source.listing? = some answer := by
  obtain ⟨_, hresult, _⟩ := Progress.attempt_eq_some h
  rw [listing?, hfixed.enumerate [] p.log]
  exact hresult

end ItemSource

section FixedAnswers

variable {source : ItemSource}

/-! ## Pipelines -/

section Pipelines

variable {p p' q q' : Progress Event} {o : PipelineOutput}

theorem answers_eq_of_fixed (hfixed : source.Fixed) (names : List String) (log log' : List Event)
    (items : List String) :
    (resolver source).answers names log items = (resolver source).answers names log' items := by
  induction items generalizing log log' with
  | nil => rfl
  | cons item rest ih =>
    have hfirst : ((resolver source).invoke log (Invocation.ofItem names item)).result? =
        ((resolver source).invoke log' (Invocation.ofItem names item)).result? := by
      simp only [resolver, Work.result?_map, hfixed.isEligible log log']
    rw [Invoker.answers, Invoker.answers, hfirst]
    exact congrArg _ (ih _ _)

theorem gather_eq_of_fixed (hfixed : source.Fixed) {names items : List String} {g g' : Gathered}
    (h : gather (resolver source) names p items = (some g, q))
    (h' : gather (resolver source) names p' items = (some g', q')) : g = g' := by
  obtain ⟨_, hresults, hfailures⟩ := gather_eq_some h
  obtain ⟨_, hresults', hfailures'⟩ := gather_eq_some h'
  rw [answers_eq_of_fixed hfixed names p.log p'.log, ← hresults'] at hresults
  rw [answers_eq_of_fixed hfixed names p.log p'.log, ← hfailures'] at hfailures
  cases g
  cases g'
  cases hresults
  cases hfailures
  rfl

theorem runVerb_eq_of_fixed (hfixed : source.Fixed) {v : Verb}
    {r r' : Except PipelineError PipelineOutput} (h : runVerb (resolver source) o p v = (r, q))
    (h' : runVerb (resolver source) o p' v = (r', q')) (hq : q.cancelled = false)
    (hq' : q'.cancelled = false) : r = r' := by
  cases v with
  | prompt message => cases h; cases h'; rfl
  | grep patterns =>
    simp only [runVerb] at h h'
    cases hread : readPatterns patterns <;> rw [hread] at h h' <;> cases h <;> cases h' <;> rfl
  | sort arguments =>
    simp only [runVerb] at h h'
    cases hread : readOrders arguments <;> rw [hread] at h h' <;> cases h <;> cases h' <;> rfl
  | xargs names =>
    simp only [runVerb] at h h'
    split at h
    · rename_i hgather
      cases h
      rw [cancelled_of_gather_eq_none hgather] at hq
      cases hq
    · rename_i g p₁ hgather
      split at h'
      · rename_i hgather'
        cases h'
        rw [cancelled_of_gather_eq_none hgather'] at hq'
        cases hq'
      · rename_i g' p₁' hgather'
        cases h
        cases h'
        rw [gather_eq_of_fixed hfixed hgather hgather']

/-- Verbs whose run is not cancelled: the first one runs, and the others unless it fails. -/
theorem runVerbs_cons_uncancelled {ε : Type} {invoker : Invoker ε} {p q : Progress ε} {v : Verb}
    {rest : List Verb} {r : Except PipelineError PipelineOutput}
    (h : runVerbs invoker o p (v :: rest) = (r, q)) (hq : q.cancelled = false) :
    (∃ e, runVerb invoker o p v = (.error e, q) ∧ r = .error e) ∨
      ∃ o₁ p₁, runVerb invoker o p v = (.ok o₁, p₁) ∧ p₁.cancelled = false ∧
        runVerbs invoker o₁ p₁ rest = (r, q) := by
  have hp := (grows_runVerbs h).uncancelled hq
  rw [runVerbs, if_neg (by rw [hp]; exact Bool.false_ne_true)] at h
  split at h
  · rename_i e p₁ hverb
    cases h
    exact .inl ⟨e, hverb, rfl⟩
  · rename_i o₁ p₁ hverb
    exact .inr ⟨o₁, p₁, hverb, (grows_runVerbs h).uncancelled hq, h⟩

theorem runVerbs_eq_of_fixed (hfixed : source.Fixed) {verbs : List Verb}
    {r r' : Except PipelineError PipelineOutput}
    (h : runVerbs (resolver source) o p verbs = (r, q))
    (h' : runVerbs (resolver source) o p' verbs = (r', q')) (hq : q.cancelled = false)
    (hq' : q'.cancelled = false) : r = r' := by
  induction verbs generalizing o p p' with
  | nil => cases h; cases h'; rfl
  | cons v rest ih =>
    -- the first verb comes to the same in both runs, so they go on alike
    rcases runVerbs_cons_uncancelled h hq with ⟨e, hverb, rfl⟩ | ⟨o₁, p₁, hverb, hp₁, hrest⟩
    · rcases runVerbs_cons_uncancelled h' hq' with ⟨e', hverb', rfl⟩ | ⟨o₁', p₁', hverb', hp₁', _⟩
      · cases runVerb_eq_of_fixed hfixed hverb hverb' hq hq'
        rfl
      · cases runVerb_eq_of_fixed hfixed hverb hverb' hq hp₁'
    · rcases runVerbs_cons_uncancelled h' hq' with
        ⟨e', hverb', rfl⟩ | ⟨o₁', p₁', hverb', hp₁', hrest'⟩
      · cases runVerb_eq_of_fixed hfixed hverb hverb' hp₁ hq'
      · cases runVerb_eq_of_fixed hfixed hverb hverb' hp₁ hp₁'
        exact ih hrest hrest'

theorem runFilled_eq_of_fixed (hfixed : source.Fixed) {scene : Scene} {a : Action}
    {candidates : List String} {r r' : Except RunError Rendered}
    (h : runFilled source scene p a candidates = (r, q))
    (h' : runFilled source scene p' a candidates = (r', q')) (hq : q.cancelled = false)
    (hq' : q'.cancelled = false) : r = r' := by
  rw [runFilled] at h h'
  rcases hrun : runPipeline (resolver source) (a.mapVerbs (Verb.filled scene)) candidates p with
    ⟨x, p₁⟩
  rcases hrun' : runPipeline (resolver source) (a.mapVerbs (Verb.filled scene)) candidates p' with
    ⟨x', p₁'⟩
  rw [hrun] at h
  rw [hrun'] at h'
  have hp₁ : p₁ = q := by split at h <;> cases h <;> rename_i heq <;> cases heq <;> rfl
  have hp₁' : p₁' = q' := by split at h' <;> cases h' <;> rename_i heq <;> cases heq <;> rfl
  subst hp₁ hp₁'
  have hx := runVerbs_eq_of_fixed hfixed hrun hrun' hq hq'
  subst hx
  split at h <;> cases h <;> split at h' <;> cases h' <;> simp_all

end Pipelines

/-! ## Variables -/

section Variables

variable {s s' t t' : RunState}

/-- The items, if they are listed already, are those that the source lists. -/
def RunState.Informed (source : ItemSource) (s : RunState) : Prop :=
  ∀ answer, s.listing = some answer → source.listing? = some answer

theorem informed_listItems (hfixed : source.Fixed) (hs : s.Informed source)
    {answer : Option (Except SourceError (List String))} (h : listItems source s = (answer, s')) :
    s'.Informed source := by
  rcases listItems_cases h with ⟨known, _, _, rfl⟩ | ⟨q, _, hlist, rfl⟩
  · exact hs
  · intro found hfound
    rw [show answer = some found from hfound] at hlist
    exact hfixed.listing?_eq hlist

/-- Whether the items are listed already makes no difference. -/
theorem listItems_of_fixed (hfixed : source.Fixed) (hs : s.Informed source)
    {answer : Option (Except SourceError (List String))} (h : listItems source s = (answer, s'))
    (hs' : s'.progress.cancelled = false) : answer = source.listing? := by
  rcases listItems_cases h with ⟨known, hlisting, rfl, rfl⟩ | ⟨q, _, hlist, rfl⟩
  · exact (hs known hlisting).symm
  · cases answer with
    | none =>
      rw [Progress.cancelled_of_attempt_eq_none hlist] at hs'
      cases hs'
    | some found => exact (hfixed.listing?_eq hlist).symm

theorem grows_after_listItems {s₁ : RunState}
    {answer : Option (Except SourceError (List String))} (hlist : listItems source s = (answer, s₁))
    {a : Action} {r : Except RunError Rendered} (h : runAction source s a = (r, s')) :
    s₁.progress.Grows s'.progress fun _ => True := by
  obtain ⟨_, _, hlist', hcases⟩ := runAction_cases h
  cases hlist.symm.trans hlist'
  rcases hcases with ⟨_, _, rfl⟩ | ⟨text, _, rfl⟩ | ⟨candidates, q, hfilled, rfl⟩
  · exact .refl _
  · exact .refl _
  · exact grows_runFilled hfilled

theorem informed_runAction (hfixed : source.Fixed) (hs : s.Informed source) {a : Action}
    {r : Except RunError Rendered} (h : runAction source s a = (r, s')) : s'.Informed source := by
  obtain ⟨answer, s₁, hlist, hcases⟩ := runAction_cases h
  have hs₁ := informed_listItems hfixed hs hlist
  rcases hcases with ⟨_, _, rfl⟩ | ⟨text, _, rfl⟩ | ⟨candidates, q, _, rfl⟩
  · exact hs₁
  · exact hs₁
  · exact hs₁

theorem runAction_eq_of_fixed (hfixed : source.Fixed) (hs : s.Informed source)
    (ht : t.Informed source) (hscene : s.scene = t.scene) {a : Action}
    {r r' : Except RunError Rendered} (h : runAction source s a = (r, s'))
    (h' : runAction source t a = (r', t')) (hq : s'.progress.cancelled = false)
    (hq' : t'.progress.cancelled = false) : r = r' := by
  rcases hlist : listItems source s with ⟨answer, s₁⟩
  rcases hlist' : listItems source t with ⟨answer', t₁⟩
  have hanswer : answer = source.listing? :=
    listItems_of_fixed hfixed hs hlist ((grows_after_listItems hlist h).uncancelled hq)
  have hanswer' : answer' = source.listing? :=
    listItems_of_fixed hfixed ht hlist' ((grows_after_listItems hlist' h').uncancelled hq')
  have hscene₁ : s₁.scene = t₁.scene := by
    rw [(kept_listItems hlist).1, (kept_listItems hlist').1, hscene]
  rw [runAction, hlist, hanswer] at h
  rw [runAction, hlist', hanswer'] at h'
  rcases hlisted : source.listing? with _ | (e | items) <;> rw [hlisted] at h h'
  · cases h; cases h'; rfl
  · cases h; cases h'; rfl
  · dsimp only at h h'
    cases hselect : selectCandidates a.trigger items with
    | error e =>
      rw [hselect] at h h'
      cases h; cases h'; rfl
    | ok candidates =>
      rw [hselect] at h h'
      obtain ⟨hfilled, hprogress⟩ := Prod.mk.inj h
      obtain ⟨hfilled', hprogress'⟩ := Prod.mk.inj h'
      rw [← hprogress] at hq
      rw [← hprogress'] at hq'
      rw [hscene₁] at hfilled hq
      exact runFilled_eq_of_fixed hfixed (Prod.ext hfilled rfl) (Prod.ext hfilled' rfl) hq hq'

theorem informed_renderValue (hfixed : source.Fixed) (hs : s.Informed source) {v : Value}
    {r : Except RunError Rendered} (h : renderValue source s v = (r, s')) : s'.Informed source := by
  rcases renderValue_cases h with ⟨a, haction⟩ | ⟨text, q, _, rfl⟩ | ⟨out, _, rfl⟩
  · exact informed_runAction hfixed hs haction
  · exact hs
  · exact hs

/-- A value comes to the same in two states of one scene. -/
theorem renderValue_eq_of_fixed (hfixed : source.Fixed) (hs : s.Informed source)
    (ht : t.Informed source) (hscene : s.scene = t.scene) {v : Value}
    {r r' : Except RunError Rendered} (h : renderValue source s v = (r, s'))
    (h' : renderValue source t v = (r', t')) (hq : s'.progress.cancelled = false)
    (hq' : t'.progress.cancelled = false) : r = r' := by
  cases v with
  | action a => exact runAction_eq_of_fixed hfixed hs ht hscene h h' hq hq'
  | caseMatch m =>
    simp only [renderValue] at h h'
    rw [hscene] at h
    cases hselect : m.select (t.scene.fill m.subject) with
    | none =>
      rw [hselect] at h h'
      cases h; cases h'; rfl
    | some a =>
      rw [hselect] at h h'
      exact runAction_eq_of_fixed hfixed hs ht hscene h h' hq hq'
  | text text =>
    obtain ⟨hfilled, hprogress⟩ := Prod.mk.inj h
    obtain ⟨hfilled', hprogress'⟩ := Prod.mk.inj h'
    rw [← hprogress] at hq
    rw [← hprogress'] at hq'
    rw [hscene] at hfilled hq
    exact runFilled_eq_of_fixed hfixed (Prod.ext hfilled rfl) (Prod.ext hfilled' rfl) hq hq'
  | number n => cases h; cases h'; rfl
  | date t => cases h; cases h'; rfl
  | flag b => cases h; cases h'; rfl
  | list items => cases h; cases h'; rfl
  | record fields => cases h; cases h'; rfl

end Variables

/-! ## Commands -/

section Commands

variable {p p' q q' : Progress Event}

theorem findPaths_eq_of_fixed (hfixed : source.Fixed) {pattern : String}
    {r r' : Except CommandError String} (h : findPaths source p pattern = (r, q))
    (h' : findPaths source p' pattern = (r', q')) (hq : q.cancelled = false)
    (hq' : q'.cancelled = false) : r = r' := by
  rw [findPaths] at h h'
  cases hcompile : PatternLibrary.compile (wholePath pattern) with
  | error fault => rw [hcompile] at h h'; cases h; cases h'; rfl
  | ok whole =>
    rw [hcompile] at h h'
    rcases hlist : source.list p with ⟨_ | found, p₁⟩
    · rw [hlist] at h
      cases h
      rw [Progress.cancelled_of_attempt_eq_none hlist] at hq
      cases hq
    rcases hlist' : source.list p' with ⟨_ | found', p₁'⟩
    · rw [hlist'] at h'
      cases h'
      rw [Progress.cancelled_of_attempt_eq_none hlist'] at hq'
      cases hq'
    have hfound := (hfixed.listing?_eq hlist).symm.trans (hfixed.listing?_eq hlist')
    cases hfound
    rw [hlist] at h
    rw [hlist'] at h'
    cases found <;> cases h <;> cases h' <;> rfl

theorem runCall_eq_of_fixed (hfixed : source.Fixed) {c : Call}
    {r r' : Except CommandError String} (h : c.run source p = (r, q))
    (h' : c.run source p' = (r', q')) (hq : q.cancelled = false) (hq' : q'.cancelled = false) :
    r = r' := by
  rw [Call.run] at h h'
  cases hname : FileFunction.ofName? c.function with
  | none => rw [hname] at h h'; cases h; cases h'; rfl
  | some f =>
    cases f
    rw [hname] at h h'
    cases harguments : c.arguments with
    | nil => rw [harguments] at h h'; cases h; cases h'; rfl
    | cons argument rest =>
      rw [harguments] at h h'
      exact findPaths_eq_of_fixed hfixed h h' hq hq'

theorem runCommand_eq_of_fixed (hfixed : source.Fixed) {text : String}
    {r r' : Except CommandError String} (h : runCommand source p text = (r, q))
    (h' : runCommand source p' text = (r', q')) (hq : q.cancelled = false)
    (hq' : q'.cancelled = false) : r = r' := by
  rw [runCommand] at h h'
  cases hcall : Call.find? text with
  | none => rw [hcall] at h h'; cases h; cases h'; rfl
  | some c =>
    rw [hcall] at h h'
    exact runCall_eq_of_fixed hfixed h h' hq hq'

/-- A command comes to the same whenever it is run. -/
theorem showCommand_eq_of_fixed (hfixed : source.Fixed) {text result result' : String}
    (h : showCommand source p text = (result, q)) (h' : showCommand source p' text = (result', q'))
    (hq : q.cancelled = false) (hq' : q'.cancelled = false) : result = result' := by
  rw [showCommand] at h h'
  rcases hrun : runCommand source p text with ⟨r, p₁⟩
  rcases hrun' : runCommand source p' text with ⟨r', p₁'⟩
  rw [hrun] at h
  rw [hrun'] at h'
  have hp₁ : p₁ = q := by cases r <;> cases h <;> rfl
  have hp₁' : p₁' = q' := by cases r' <;> cases h' <;> rfl
  subst hp₁ hp₁'
  cases runCommand_eq_of_fixed hfixed hrun hrun' hq hq'
  cases r <;> cases h <;> cases h' <;> rfl

end Commands

end FixedAnswers

end PromptScript
