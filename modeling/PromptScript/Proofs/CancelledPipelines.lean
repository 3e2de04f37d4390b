import PromptScript.Proofs.Invocations
import PromptScript.Proofs.StartedCancelled

/-!
# Proofs.CancelledPipelines

Where a pipeline stops whose token is cancelled. A `Handover` is a place at which it invokes
something, and every invocation is made at one (`exists_handover`). If nothing cancels the token
before it, the pipeline comes that far; if the invocation itself does, it is the last one. The
pipeline is then given up, unless nothing was left to do and the invocation came to a result
(`cancelled_pipeline_stops`).
-/

namespace PromptScript

/-! ## Places in a pipeline -/

/-- A place at which verbs over items invoke something: the verb that does, the candidate that it is
about, and what stands before and after each of them. -/
structure Handover (verbs : List Verb) (items : List String) where
  before : List Verb
  names : List String
  after : List Verb
  earlier : List String
  item : String
  later : List String
  verbs_eq : verbs = before ++ .xargs names :: after
  sound : before.findSome? Verb.fault? = none
  held_eq : before.foldl Verb.leaves items = earlier ++ item :: later

namespace Handover

variable {verbs : List Verb} {items : List String} (t : Handover verbs items)

def invocation : Invocation := .ofItem t.names t.item

/-- The invocations before this one. -/
def made : List Invocation :=
  invocations items t.before ++ t.earlier.map (Invocation.ofItem t.names)

/-- The candidate is the last of its verb, and the verb is the last one. -/
def IsLast : Prop := t.later = [] ∧ t.after = []

end Handover

/-- Every invocation of a pipeline is made at some place. -/
theorem exists_handover {verbs : List Verb} {items : List String} {made todo : List Invocation}
    {i : Invocation} (h : invocations items verbs = made ++ i :: todo) :
    ∃ t : Handover verbs items, t.made = made ∧ t.invocation = i := by
  induction verbs generalizing items made with
  | nil => exact absurd h.symm (List.append_ne_nil_of_right_ne_nil _ (List.cons_ne_nil _ _))
  | cons v rest ih =>
    cases hfault : v.fault? with
    | some e =>
      rw [invocations, hfault] at h
      exact absurd h.symm (List.append_ne_nil_of_right_ne_nil _ (List.cons_ne_nil _ _))
    | none =>
      have hlater : ∀ made', invocations (v.leaves items) rest = made' ++ i :: todo →
          ∃ t : Handover (v :: rest) items,
            t.made = v.invocations items ++ made' ∧ t.invocation = i := by
        intro made' hrest
        obtain ⟨t, rfl, rfl⟩ := ih hrest
        refine ⟨⟨v :: t.before, t.names, t.after, t.earlier, t.item, t.later, ?_, ?_, t.held_eq⟩,
          ?_, rfl⟩
        · rw [List.cons_append, ← t.verbs_eq]
        · rw [List.findSome?_cons_of_isNone (by rw [hfault]; rfl)]
          exact t.sound
        · exact (congrArg (· ++ _) (invocations_cons hfault items t.before)).trans
            (List.append_assoc _ _ _)
      rw [invocations_cons hfault] at h
      rcases List.append_eq_append_iff.1 h with ⟨made', rfl, hrest⟩ | ⟨own, hown, htodo⟩
      · exact hlater made' hrest
      · cases own with
        | nil =>
          rw [List.append_nil] at hown
          rw [← hown, ← List.append_nil (v.invocations items)]
          exact hlater [] htodo.symm
        | cons i' own =>
          obtain ⟨rfl, _⟩ := List.cons_eq_cons.1 htodo
          cases v with
          | xargs names =>
            -- the invocation is for one of the candidates of this verb
            obtain ⟨earlier, held, hheld, rfl, hrest⟩ := List.map_eq_append_iff.1 hown
            obtain ⟨item, later, rfl, rfl, _⟩ := List.map_eq_cons_iff.1 hrest
            exact ⟨⟨[], names, rest, earlier, item, later, rfl, rfl, hheld⟩, rfl, rfl⟩
          | prompt | grep | sort =>
            exact absurd hown.symm (List.append_ne_nil_of_right_ne_nil _ (List.cons_ne_nil _ _))

/-! ## Work that leaves the token alone -/

theorem Progress.attempt_of_calm {ε : Type u} {α : Type v} {p : Progress ε} (events : List ε)
    (work : List ε → Work α) (hp : p.cancelled = false) (h : (work p.log).cancels = false) :
    ∃ a, p.attempt events work = (some a, ⟨false, p.log ++ events⟩) := by
  rw [attempt, if_neg (by rw [hp]; exact Bool.false_ne_true)]
  cases hwork : work p.log with
  | finishes a => exact ⟨a, rfl⟩
  | cancelsAndFinishes a => rw [hwork] at h; cases h
  | cancelsAndHangs => rw [hwork] at h; cases h

section Pipelines

variable {ε : Type} {invoker : Invoker ε} {o o₁ : PipelineOutput} {p p₁ q : Progress ε}
  {names : List String}

/-- None of the invocations cancels the token, made one after the other. -/
def Invoker.Calm (invoker : Invoker ε) (log : List ε) : List Invocation → Prop
  | [] => True
  | i :: rest => (invoker.invoke log i).cancels = false ∧ Calm invoker (log ++ [invoker.event i]) rest

theorem Invoker.calm_append {log : List ε} {made more : List Invocation} :
    invoker.Calm log (made ++ more) ↔
      invoker.Calm log made ∧ invoker.Calm (log ++ made.map invoker.event) more := by
  induction made generalizing log with
  | nil => simp [Calm]
  | cons i rest ih => simp [Calm, ih, and_assoc]

theorem gather_of_calm {items : List String} (hp : p.cancelled = false)
    (hcalm : invoker.Calm p.log (items.map (Invocation.ofItem names))) :
    (gather invoker names p items).2.cancelled = false := by
  induction items generalizing p with
  | nil => exact hp
  | cons item rest ih =>
    obtain ⟨hfirst, hrest⟩ := hcalm
    obtain ⟨outcome, hattempt⟩ := Progress.attempt_of_calm
      [invoker.event (Invocation.ofItem names item)]
      (invoker.invoke · (Invocation.ofItem names item)) hp hfirst
    have hlater := ih (p := ⟨false, _⟩) rfl hrest
    simp only [gather, hattempt]
    split <;> rename_i heq <;> rw [heq] at hlater <;> exact hlater

/-- Candidates whose invocations leave the token alone do not stop the others. -/
theorem gather_of_cancels {earlier : List String} (later : List String) {item : String}
    {w : Work (Except InvokeError String)} (hp : p.cancelled = false)
    (hcalm : invoker.Calm p.log (earlier.map (Invocation.ofItem names)))
    (hw : invoker.invoke (p.log ++ (earlier.map (Invocation.ofItem names)).map invoker.event)
      (.ofItem names item) = w) (hcancels : w.cancels = true) :
    (gather invoker names p (earlier ++ item :: later)).2 =
        ⟨true, p.log ++ ((earlier ++ [item]).map (Invocation.ofItem names)).map invoker.event⟩ ∧
      ((gather invoker names p (earlier ++ item :: later)).1.isSome = true ↔
        later = [] ∧ w.result?.isSome = true) := by
  induction earlier generalizing p with
  | nil =>
    rw [List.map_nil, List.map_nil, List.append_nil] at hw
    simp only [List.nil_append, gather, Progress.attempt, hp, hw, hcancels]
    cases hresult : w.result? with
    | none => simp
    | some outcome =>
      cases later with
      | nil => simp [gather]
      | cons next more => simp [gather, Progress.attempt]
  | cons first earlier ih =>
    obtain ⟨hfirst, hrest⟩ := hcalm
    obtain ⟨outcome, hattempt⟩ := Progress.attempt_of_calm
      [invoker.event (Invocation.ofItem names first)]
      (invoker.invoke · (Invocation.ofItem names first)) hp hfirst
    have hmore := ih (p := ⟨false, _⟩) rfl hrest (by simpa using hw)
    simp only [List.cons_append, gather, hattempt]
    rcases hgather : gather invoker names ⟨false, p.log ++
        [invoker.event (Invocation.ofItem names first)]⟩ (earlier ++ item :: later) with ⟨g, q⟩
    rw [hgather] at hmore
    cases g <;> simpa using hmore

/-! ## Verbs -/

theorem runVerb_of_calm {v : Verb} (hp : p.cancelled = false)
    (hcalm : invoker.Calm p.log (v.invocations o.candidates)) :
    (runVerb invoker o p v).2.cancelled = false := by
  cases v with
  | prompt message => exact hp
  | grep patterns =>
    simp only [runVerb]
    split <;> exact hp
  | sort arguments =>
    simp only [runVerb]
    split <;> exact hp
  | xargs names =>
    have hgather := gather_of_calm hp hcalm
    simp only [runVerb]
    split <;> rename_i heq <;> rw [heq] at hgather <;> exact hgather

/-- Verbs without a fault complete if nothing that they invoke cancels the token. -/
theorem runVerbs_of_calm {verbs : List Verb} (hp : p.cancelled = false)
    (hsound : verbs.findSome? Verb.fault? = none)
    (hcalm : invoker.Calm p.log (invocations o.candidates verbs)) :
    ∃ o' q, runVerbs invoker o p verbs = (.ok o', q) ∧ q.cancelled = false := by
  induction verbs generalizing o p with
  | nil => exact ⟨o, p, rfl, hp⟩
  | cons v rest ih =>
    rw [List.findSome?_eq_none_iff, List.forall_mem_cons, ← List.findSome?_eq_none_iff] at hsound
    obtain ⟨hfault, hrest⟩ := hsound
    rw [invocations_cons hfault, Invoker.calm_append] at hcalm
    have hcancelled := runVerb_of_calm hp hcalm.1
    rw [runVerbs, if_neg (by rw [hp]; exact Bool.false_ne_true)]
    rcases hverb : runVerb invoker o p v with ⟨e | o₁, p₁⟩
    · rw [hverb] at hcancelled
      have he : e ≠ .cancelled := by
        rintro rfl
        rw [cancelled_of_runVerb hverb] at hcancelled
        cases hcancelled
      rw [(fault_eq_of_runVerb he hverb).1] at hfault
      cases hfault
    · rw [hverb] at hcancelled
      have hfirst := completes_of_runVerb hverb
      have hlog := hfirst.log
      rw [invocations_singleton hfault] at hlog
      refine ih hcancelled hrest ?_
      rw [hlog, hfirst.candidates]
      exact hcalm.2

theorem runVerbs_append {before : List Verb} (h : runVerbs invoker o p before = (.ok o₁, p₁))
    (rest : List Verb) :
    runVerbs invoker o p (before ++ rest) = runVerbs invoker o₁ p₁ rest := by
  induction before generalizing o p with
  | nil => cases h; rfl
  | cons v before ih =>
    rw [runVerbs] at h
    split at h
    · cases h
    · rename_i hp
      split at h
      · cases h
      · rename_i o₂ p₂ hverb
        rw [List.cons_append, runVerbs, if_neg hp, hverb]
        exact ih h

theorem runVerbs_append_of_error {before : List Verb} {e : PipelineError} {q : Progress ε}
    (h : runVerbs invoker o p before = (.error e, q)) (rest : List Verb) :
    runVerbs invoker o p (before ++ rest) = (.error e, q) := by
  induction before generalizing o p with
  | nil => cases h
  | cons v before ih =>
    rw [runVerbs] at h
    split at h
    · rename_i hp
      rw [List.cons_append, runVerbs, if_pos hp, h]
    · rename_i hp
      split at h
      · rename_i hverb
        rw [List.cons_append, runVerbs, if_neg hp, hverb]
        exact h
      · rename_i hverb
        rw [List.cons_append, runVerbs, if_neg hp, hverb]
        exact ih h

/-- An `xargs` during which the token is cancelled, and the verbs after it. -/
theorem runVerbs_of_cancels {earlier later : List String} {item : String} (after : List Verb)
    {w : Work (Except InvokeError String)} (hp : p.cancelled = false)
    (hheld : o.candidates = earlier ++ item :: later)
    (hcalm : invoker.Calm p.log (earlier.map (Invocation.ofItem names)))
    (hw : invoker.invoke (p.log ++ (earlier.map (Invocation.ofItem names)).map invoker.event)
      (.ofItem names item) = w) (hcancels : w.cancels = true) :
    ∃ r, runVerbs invoker o p (.xargs names :: after) = (r, ⟨true, p.log ++
        ((earlier ++ [item]).map (Invocation.ofItem names)).map invoker.event⟩) ∧
      ((later = [] ∧ after = []) ∧ w.result?.isSome = true → ∃ o', r = .ok o') ∧
      (¬ ((later = [] ∧ after = []) ∧ w.result?.isSome = true) → r = .error .cancelled) := by
  obtain ⟨hq, hsome⟩ := gather_of_cancels later hp hcalm hw hcancels
  rw [runVerbs, if_neg (by rw [hp]; exact Bool.false_ne_true), runVerb, hheld]
  rcases hgather : gather invoker names p (earlier ++ item :: later) with ⟨_ | g, q⟩
  · rw [hgather] at hq hsome
    obtain rfl : q = _ := hq
    refine ⟨_, rfl, ?_, fun _ => rfl⟩
    rintro ⟨⟨hlater, _⟩, hresult⟩
    cases hsome.2 ⟨hlater, hresult⟩
  · rw [hgather] at hq hsome
    obtain rfl : q = _ := hq
    obtain ⟨hlater, hresult⟩ := hsome.1 rfl
    cases after with
    | nil => exact ⟨_, rfl, fun _ => ⟨_, rfl⟩, fun hnot => absurd ⟨⟨hlater, rfl⟩, hresult⟩ hnot⟩
    | cons v after =>
      -- the next verb looks at the token first
      refine ⟨.error .cancelled, rfl, ?_, fun _ => rfl⟩
      rintro ⟨⟨_, hafter⟩, _⟩
      cases hafter

end Pipelines

/-- A pipeline starts nothing once its token is cancelled: before the run, or in an invocation. It is
given up then, and no fault of a later verb is reported. Only if the invocation comes to a result, is
for the last candidate, and of the last verb, does the pipeline complete, with all that it has
handed over. -/
theorem cancelled_pipeline_stops {ε : Type} (invoker : Invoker ε) (a : Action) (items : List String)
    (log : List ε) :
    runPipeline invoker a items ⟨true, log⟩ = (.error .cancelled, ⟨true, log⟩) ∧
      (∀ made i todo, invocations items a.verbs = made ++ i :: todo →
        ∃ t : Handover a.verbs items, t.made = made ∧ t.invocation = i) ∧
      ∀ (t : Handover a.verbs items) (w : Work (Except InvokeError String)),
        invoker.Calm log t.made →
        invoker.invoke (log ++ t.made.map invoker.event) t.invocation = w → w.cancels = true →
        let q : Progress ε := ⟨true, log ++ (t.made ++ [t.invocation]).map invoker.event⟩
        ∃ r, runPipeline invoker a items ⟨false, log⟩ = (r, q) ∧
          (t.IsLast ∧ w.result?.isSome = true → ∃ o, r = .ok o ∧
            Completes invoker a.verbs { candidates := items } ⟨false, log⟩ o q ∧
            Shows invoker o q (.xargs t.names)) ∧
          (¬ (t.IsLast ∧ w.result?.isSome = true) → r = .error .cancelled) := by
  refine ⟨runPipeline_of_cancelled rfl invoker a items, fun _ _ _ => exists_handover, ?_⟩
  intro t w hcalm hw hcancels q
  rw [Handover.made, Invoker.calm_append] at hcalm
  -- up to the verb nothing has cancelled the token
  obtain ⟨o₁, p₁, hbefore, hp₁⟩ := runVerbs_of_calm (o := { candidates := items })
    (p := ⟨false, log⟩) rfl t.sound hcalm.1
  have hcompletes := completes_of_runVerbs hbefore
  have hlog : p₁.log = log ++ (invocations items t.before).map invoker.event := hcompletes.log
  have hheld : o₁.candidates = t.earlier ++ t.item :: t.later :=
    hcompletes.candidates.trans t.held_eq
  rw [← hlog] at hcalm
  rw [Handover.made, List.map_append, ← List.append_assoc, ← hlog] at hw
  obtain ⟨r, hrun, hlast, hgiven⟩ := runVerbs_of_cancels t.after hp₁ hheld hcalm.2 hw
    hcancels
  have hall : runPipeline invoker a items ⟨false, log⟩ = (r, q) := by
    rw [runPipeline, t.verbs_eq, runVerbs_append hbefore, hrun, hlog]
    simp [q, Handover.made, Handover.invocation]
  refine ⟨r, hall, ?_, hgiven⟩
  intro hdone
  obtain ⟨o, rfl⟩ := hlast hdone
  have hverbs := t.verbs_eq
  rw [hdone.1.2] at hverbs
  exact ⟨o, rfl, completes_of_runVerbs hall,
    (runVerbs_eq_ok hall).2 _ ((congrArg List.getLast? hverbs).trans List.getLast?_concat)⟩

/-- Handles every item, and cancels the token while it handles a certain one. -/
def cancelledBy (item : String) : Invoker String where
  event i := i.item
  invoke _ i := if i.item = item then .cancelsAndFinishes (.ok i.item) else .finishes (.ok i.item)

/-- The second verb has a fault. -/
def handedOverUnordered : Action := ⟨"", [.xargs ["f"], .sort ["mtime"]], List.cons_ne_nil _ _⟩

def handedOver : Action := ⟨"", [.xargs ["f"]], List.cons_ne_nil _ _⟩

/-- The last candidate of the first verb, before the verb with a fault. -/
def beforeFault : Handover handedOverUnordered.verbs ["a", "b"] :=
  ⟨[], ["f"], [.sort ["mtime"]], ["a"], "b", [], rfl, rfl, rfl⟩

/-- The last candidate of the last verb. -/
def atEnd : Handover handedOver.verbs ["a", "b"] := ⟨[], ["f"], [], ["a"], "b", [], rfl, rfl, rfl⟩

theorem cancelled_pipeline_stops_last :
    (cancelledBy "b").Calm [] beforeFault.made ∧
      ((cancelledBy "b").invoke ["a"] beforeFault.invocation).cancels = true ∧
      (runPipeline (cancelledBy "b") handedOverUnordered ["a", "b"] {}).1 = .error .cancelled ∧
      ∃ o, runPipeline (cancelledBy "b") handedOver ["a", "b"] {} = (.ok o, ⟨true, ["a", "b"]⟩) ∧
        o.text = "a\nb" := by
  have hcalm : (cancelledBy "b").Calm [] beforeFault.made := ⟨by decide, trivial⟩
  have hcancels : ((cancelledBy "b").invoke ["a"] beforeFault.invocation).cancels = true := by
    decide
  obtain ⟨r, hrun, _, hgiven⟩ := (cancelled_pipeline_stops (cancelledBy "b") handedOverUnordered
    ["a", "b"] []).2.2 beforeFault _ hcalm rfl hcancels
  obtain ⟨r', hrun', hdone, _⟩ := (cancelled_pipeline_stops (cancelledBy "b") handedOver
    ["a", "b"] []).2.2 atEnd _ ⟨by decide, trivial⟩ rfl (by decide)
  obtain ⟨o, rfl, _⟩ := hdone ⟨⟨rfl, rfl⟩, rfl⟩
  have htext : (runPipeline (cancelledBy "b") handedOver ["a", "b"] {}).1.toOption.map (·.text) =
      some "a\nb" := by decide +kernel
  refine ⟨hcalm, hcancels, ?_, o, hrun', ?_⟩
  · rw [hrun]
    exact hgiven fun h => absurd h.1.2 (List.cons_ne_nil _ _)
  · rw [hrun'] at htext
    exact Option.some.inj htext

end PromptScript
