import PromptScript.Proofs.Progress
import PromptScript.Proofs.SymbolTable
import PromptScript.Session

/-!
# Proofs.CachedResponses

What a session remembers of its runs. Only a run whose agent answers in full writes to the cache,
under the path of its script (`answered_or_unanswered`), and beside it only the host itself writes
to it. So each step of a session gives one script a response or leaves the cache alone
(`step_cases`), and what is cached for a script is the last response that it was given
(`cached_iff_last_response`).
-/

namespace PromptScript

/-! ## One run -/

namespace Document

/-- The run comes to the response of an agent: it completes, the host has the agent that the
document names, and the agent does not end in an error. -/
inductive Answered (d : Document) (host : Host) (result : Except RunError RunOutput) :
    String → Prop where
  | intro {out : RunOutput} {name response : String} {agent : Agent} :
      result = .ok out → d.header.agent = some name → host.agents.get? name = some agent →
      (∀ e, (agent out.text).ending.result? ≠ some (.error e)) → out.response = some response →
      Answered d host result response

/-- The run comes to no response of an agent. -/
inductive Unanswered (d : Document) (host : Host) (result : Except RunError RunOutput) : Prop where
  | cancelled : result = .error .cancelled → Unanswered d host result
  | unnamed : d.header.agent = none → Unanswered d host result
  | unknown {name : String} : d.header.agent = some name → host.agents.get? name = none →
      Unanswered d host result
  | failed {out : RunOutput} {name : String} {agent : Agent} {e : AgentError} :
      result = .ok out → d.header.agent = some name → host.agents.get? name = some agent →
      (agent out.text).ending.result? = some (.error e) → Unanswered d host result

end Document

section Runs

variable {host : Host} {script : String} {cache cache' : ResponseCache} {p q : Progress Event}
  {d : Document} {result : Except RunError RunOutput}

theorem Document.Answered.not_unanswered {response : String}
    (h : d.Answered host result response) : ¬ d.Unanswered host result := by
  obtain ⟨hresult, hname, hagent, hending, _⟩ := h
  intro hun
  cases hun with
  | cancelled h => rw [hresult] at h; cases h
  | unnamed h => rw [hname] at h; cases h
  | unknown h hnone =>
    rw [hname] at h
    cases h
    rw [hagent] at hnone
    cases hnone
  | failed h hname' hagent' herror =>
    rw [hresult] at h
    cases h
    rw [hname] at hname'
    cases hname'
    rw [hagent] at hagent'
    cases hagent'
    exact hending _ herror

theorem Document.Answered.eq {response response' : String} (h : d.Answered host result response)
    (h' : d.Answered host result response') : response = response' := by
  obtain ⟨hresult, _, _, _, hresponse⟩ := h
  obtain ⟨hresult', _, _, _, hresponse'⟩ := h'
  rw [hresult] at hresult'
  cases hresult'
  exact Option.some.inj (hresponse.symm.trans hresponse')

/-- How an agent comes to an end: the token stops it, or it fails, or its response is kept. -/
theorem handOff_cases {name text : String} {agent : Agent} {r : Except RunError String}
    (hagent : host.agents.get? name = some agent)
    (h : handOff host script name text cache p = (r, cache', q)) :
    (r = .error .cancelled ∧ cache' = cache) ∨
      (∃ shown e, r = .ok shown ∧ (agent text).ending.result? = some (.error e) ∧
        cache' = cache) ∨
      ∃ response, r = .ok response ∧ (agent text).ending.result? = some (.ok ()) ∧
        cache' = cache.insert script response := by
  rw [handOff, hagent] at h
  dsimp only at h
  -- the result of the agent's ending, with the chunks put in place of its value
  have hending {found : Except AgentError String} {p₁ : Progress Event}
      (hrun : agent.run p name text = (some found, p₁)) :
      (agent text).ending.result?.map (fun ending => ending.map fun _ =>
        String.join (agent text).chunks) = some found := by
    simp only [Agent.run] at hrun
    obtain ⟨_, hresult, _⟩ := Progress.attempt_eq_some hrun
    rw [← hresult]
    unfold Agent.response
    cases (agent text).ending <;> rfl
  split at h
  · cases h
    exact .inl ⟨rfl, rfl⟩
  · rename_i e p₁ hrun
    cases h
    obtain ⟨ending, hresult, hmap⟩ := Option.map_eq_some_iff.1 (hending hrun)
    cases ending with
    | error e' => exact .inr (.inl ⟨_, e', rfl, hresult, rfl⟩)
    | ok u => cases hmap
  · rename_i response p₁ hrun
    cases h
    obtain ⟨ending, hresult, hmap⟩ := Option.map_eq_some_iff.1 (hending hrun)
    cases ending with
    | error e' => cases hmap
    | ok u => exact .inr (.inr ⟨response, rfl, hresult, rfl⟩)

/-- A run whose agent answers keeps the response for its script. Every other run leaves the cache
alone. -/
theorem answered_or_unanswered {context : Context}
    (h : d.run host script context cache p = (result, cache', q)) :
    (∃ response, d.Answered host result response ∧ cache' = cache.insert script response) ∨
      (d.Unanswered host result ∧ cache' = cache) := by
  rw [Document.run] at h
  split at h
  · rename_i e s hvars
    cases h
    cases e
    exact .inr ⟨.cancelled rfl, rfl⟩
  · split at h
    · rename_i e p₁ hbody
      cases h
      cases e
      exact .inr ⟨.cancelled rfl, rfl⟩
    · rename_i s text p₁ hbody
      cases hname : d.header.agent with
      | none =>
        rw [hname, handOffTo?] at h
        cases h
        exact .inr ⟨.unnamed hname, rfl⟩
      | some name =>
        rw [hname, handOffTo?] at h
        cases hagent : host.agents.get? name with
        | none =>
          rw [handOff, hagent] at h
          cases h
          exact .inr ⟨.unknown hname hagent, rfl⟩
        | some agent =>
          rcases hhand : handOff host script name text cache p₁ with ⟨r, cache₁, p₂⟩
          rw [hhand] at h
          rcases handOff_cases hagent hhand with
            ⟨rfl, rfl⟩ | ⟨shown, e, rfl, hending, rfl⟩ | ⟨response, rfl, hending, rfl⟩
          · cases h
            exact .inr ⟨.cancelled rfl, rfl⟩
          · cases h
            exact .inr ⟨.failed rfl hname hagent hending, rfl⟩
          · cases h
            refine .inl ⟨response, .intro rfl hname hagent ?_ rfl, rfl⟩
            intro e herror
            rw [hending] at herror
            cases herror

end Runs

/-! ## One step of a session -/

namespace Session

/-- The step gives the script a response: the host stores one, or a run of the script comes to
one. -/
inductive Responds (s : Session) : SessionStep → String → String → Prop where
  | remembered (script response : String) : Responds s (.remember script response) script response
  | answered {key : String} {host : Host} {script : LoadedScript} {response : String} :
      s.scripts.get? key = some script →
      script.document.Answered host (s.runScript host script).1.result response →
      Responds s (.run key host) script.path response

section Steps

variable {s : Session} {todo : List SessionStep} {script response : String}

theorem cache_runScript (s : Session) (host : Host) (script : LoadedScript) :
    (∃ response, script.document.Answered host (s.runScript host script).1.result response ∧
      (s.runScript host script).2.cache = s.cache.insert script.path response) ∨
    (script.document.Unanswered host (s.runScript host script).1.result ∧
      (s.runScript host script).2.cache = s.cache) := by
  rw [Session.runScript]
  exact answered_or_unanswered rfl

theorem step_run {key : String} {host : Host} {loaded : LoadedScript}
    (h : s.scripts.get? key = some loaded) :
    s.step (.run key host) = (s.runScript host loaded).2 := by
  rw [step, run, h]

/-- A step gives one script a response, or it gives none and leaves the cache alone. -/
theorem step_cases (s : Session) (step : SessionStep) :
    (∃ script response, s.Responds step script response ∧
      (s.step step).cache = s.cache.insert script response ∧
      ∀ other r, s.Responds step other r → other = script ∧ r = response) ∨
    ((∀ script r, ¬ s.Responds step script r) ∧ (s.step step).cache = s.cache) := by
  cases step with
  | load | unload | set | cancel | renewToken => exact .inr ⟨nofun, rfl⟩
  | remember script response =>
    refine .inl ⟨script, response, .remembered script response, rfl, ?_⟩
    rintro _ _ ⟨⟩
    exact ⟨rfl, rfl⟩
  | run key host =>
    cases hloaded : s.scripts.get? key with
    | none =>
      refine .inr ⟨?_, by rw [Session.step, run, hloaded]⟩
      rintro _ r (_ | ⟨hfound, _⟩)
      rw [hloaded] at hfound
      cases hfound
    | some loaded =>
      rw [step_run hloaded]
      rcases cache_runScript s host loaded with ⟨response, hanswered, hcache⟩ | ⟨hun, hcache⟩
      · refine .inl ⟨loaded.path, response, .answered hloaded hanswered, hcache, ?_⟩
        rintro _ r (_ | ⟨hfound, hanswered'⟩)
        rw [hloaded] at hfound
        cases hfound
        exact ⟨rfl, hanswered'.eq hanswered⟩
      · refine .inr ⟨?_, hcache⟩
        rintro _ r (_ | ⟨hfound, hanswered⟩)
        rw [hloaded] at hfound
        cases hfound
        exact hanswered.not_unanswered hun

/-- What is cached after a step: the response that it gives, or what was cached before. -/
theorem cached_step_iff (s : Session) (step : SessionStep) (script response : String) :
    (s.step step).cache.get? script = some response ↔
      s.Responds step script response ∨
        ((∀ r, ¬ s.Responds step script r) ∧ s.cache.get? script = some response) := by
  rcases step_cases s step with ⟨given, r, hresponds, hcache, honly⟩ | ⟨hnone, hcache⟩
  · rw [hcache, NameMap.get?_insert]
    by_cases hscript : script = given
    · subst hscript
      rw [if_pos rfl, Option.some.injEq]
      constructor
      · rintro rfl
        exact .inl hresponds
      · rintro (h | ⟨h, _⟩)
        · exact (honly _ _ h).2.symm
        · exact absurd hresponds (h r)
    · have hsilent : ∀ r, ¬ s.Responds step script r := fun r h => hscript (honly _ _ h).1
      rw [if_neg hscript]
      exact ⟨fun h => .inr ⟨hsilent, h⟩, fun h => (h.resolve_left (hsilent _)).2⟩
  · rw [hcache]
    exact ⟨fun h => .inr ⟨hnone script, h⟩, fun h => (h.resolve_left (hnone script _)).2⟩

/-! ## Histories -/

/-- None of the steps gives the script a response. -/
def Silent (s : Session) (todo : List SessionStep) (script : String) : Prop :=
  ∀ before step after, todo = before ++ step :: after →
    ∀ r, ¬ (s.steps before).Responds step script r

/-- The last of the steps that give the script a response gives it this one. -/
def LastResponse (s : Session) (todo : List SessionStep) (script response : String) : Prop :=
  ∃ before step after, todo = before ++ step :: after ∧
    (s.steps before).Responds step script response ∧
    ((s.steps before).step step).Silent after script

theorem silent_cons_iff {step : SessionStep} :
    s.Silent (step :: todo) script ↔
      (∀ r, ¬ s.Responds step script r) ∧ (s.step step).Silent todo script := by
  constructor
  · intro h
    refine ⟨h [] step todo rfl, ?_⟩
    intro before step' after heq
    exact h (step :: before) step' after (by rw [heq]; rfl)
  · rintro ⟨hfirst, hrest⟩ before step' after heq
    cases before with
    | nil => cases heq; exact hfirst
    | cons first before =>
      obtain ⟨rfl, htail⟩ := List.cons_eq_cons.1 heq
      exact hrest before step' after htail

theorem lastResponse_cons_iff {step : SessionStep} :
    s.LastResponse (step :: todo) script response ↔
      (s.step step).LastResponse todo script response ∨
        (s.Responds step script response ∧ (s.step step).Silent todo script) := by
  constructor
  · rintro ⟨before, step', after, heq, hresponds, hsilent⟩
    cases before with
    | nil => cases heq; exact .inr ⟨hresponds, hsilent⟩
    | cons first before =>
      obtain ⟨rfl, htail⟩ := List.cons_eq_cons.1 heq
      exact .inl ⟨before, step', after, htail, hresponds, hsilent⟩
  · rintro (⟨before, step', after, heq, hresponds, hsilent⟩ | ⟨hresponds, hsilent⟩)
    · exact ⟨step :: before, step', after, by rw [heq]; rfl, hresponds, hsilent⟩
    · exact ⟨[], step, todo, rfl, hresponds, hsilent⟩

/-- What is cached after steps: the last response that they give, or what was cached before them if
they give none. -/
theorem cached_steps_iff (s : Session) (todo : List SessionStep) (script response : String) :
    (s.steps todo).cache.get? script = some response ↔
      s.LastResponse todo script response ∨
        (s.Silent todo script ∧ s.cache.get? script = some response) := by
  induction todo generalizing s with
  | nil =>
    have hsilent : s.Silent [] script := by rintro (_ | _) _ _ ⟨⟩
    have hlast : ¬ s.LastResponse [] script response := by rintro ⟨_ | _, _, _, ⟨⟩, _⟩
    exact ⟨fun h => .inr ⟨hsilent, h⟩, fun h => (h.resolve_left hlast).2⟩
  | cons step rest ih =>
    have hrest : (s.steps (step :: rest)).cache = ((s.step step).steps rest).cache := rfl
    rw [hrest, ih, lastResponse_cons_iff, silent_cons_iff, cached_step_iff]
    grind

theorem LastResponse.not_silent (h : s.LastResponse todo script response) :
    ¬ s.Silent todo script := by
  obtain ⟨before, step, after, heq, hresponds, _⟩ := h
  exact fun hsilent => hsilent before step after heq response hresponds

/-- If some step gives a response, one of these is the last. -/
theorem exists_lastResponse (h : ¬ s.Silent todo script) :
    ∃ response, s.LastResponse todo script response := by
  induction todo generalizing s with
  | nil => exact absurd (fun before step after heq => by cases before <;> cases heq) h
  | cons step rest ih =>
    by_cases hrest : (s.step step).Silent rest script
    · rw [silent_cons_iff, not_and'] at h
      obtain ⟨response, hresponds⟩ := Classical.not_forall_not.1 (h hrest)
      exact ⟨response, lastResponse_cons_iff.2 (.inr ⟨hresponds, hrest⟩)⟩
    · obtain ⟨response, hlast⟩ := ih hrest
      exact ⟨response, lastResponse_cons_iff.2 (.inl hlast)⟩

/-- A run that comes to no response leaves the cache alone. -/
theorem cache_of_unanswered {key : String} {host : Host} {loaded : LoadedScript}
    (hloaded : s.scripts.get? key = some loaded)
    (h : loaded.document.Unanswered host (s.runScript host loaded).1.result) :
    (s.step (.run key host)).cache = s.cache := by
  rw [step_run hloaded]
  rcases cache_runScript s host loaded with ⟨response, hanswered, _⟩ | ⟨_, hcache⟩
  · exact absurd h hanswered.not_unanswered
  · exact hcache

end Steps

/-- In a session that starts with an empty cache, what is cached for a script is the last response
that it was given, and nothing if it was given none. A run that comes to no response leaves every
entry as it was. -/
theorem cached_iff_last_response (todo : List SessionStep) (script : String) :
    (∀ response, (Session.steps {} todo).cache.get? script = some response ↔
      Session.LastResponse {} todo script response) ∧
    ((Session.steps {} todo).cache.get? script = none ↔ Session.Silent {} todo script) ∧
    ∀ (s : Session) (key : String) (host : Host) (loaded : LoadedScript),
      s.scripts.get? key = some loaded →
      loaded.document.Unanswered host (s.runScript host loaded).1.result →
      (s.step (.run key host)).cache = s.cache := by
  have hcached : ∀ response, (Session.steps {} todo).cache.get? script = some response ↔
      Session.LastResponse {} todo script response := by
    intro response
    rw [cached_steps_iff]
    constructor
    · rintro (hlast | ⟨_, hempty⟩)
      · exact hlast
      · cases hempty
    · exact .inl
  refine ⟨hcached, ?_, fun _ _ _ _ => cache_of_unanswered⟩
  rw [Option.eq_none_iff_forall_ne_some]
  constructor
  · intro hnone
    refine Classical.byContradiction fun hspoken => ?_
    obtain ⟨response, hlast⟩ := exists_lastResponse hspoken
    exact hnone response ((hcached response).2 hlast)
  · intro hsilent response hsome
    exact ((hcached response).1 hsome).not_silent hsilent

/-- A host whose agent sends a part of its response and then fails. -/
def failingHost : Host where
  source := .ofList []
  agents := NameMap.empty.insert Agent.echoName
    fun _ => ⟨["part"], .finishes (.error (.failed Agent.echoName "rate limited"))⟩

/-- A script for the built-in agent. -/
def greetingScript : LoadedScript :=
  ⟨"s", ⟨{ agent := some Agent.echoName }, "hello".toList, 1, .empty⟩⟩

/-- The script is run with the built-in agent, then with one that fails, with none, and under a
cancelled token. -/
def greetings : List SessionStep :=
  [.load "k" greetingScript, .run "k" ⟨.ofList [], .withEcho⟩, .run "k" failingHost,
    .remember "t" "other", .run "k" ⟨.ofList [], .empty⟩, .cancel, .run "k" ⟨.ofList [], .withEcho⟩]

theorem cached_iff_last_response_failing :
    let s := Session.steps {} (greetings.take 2)
    (Session.steps {} greetings).cache.get? "s" = some "hello" ∧
    Session.LastResponse {} greetings "s" "hello" ∧
    (Session.steps {} greetings).cache.get? "u" = none ∧ Session.Silent {} greetings "u" ∧
    greetingScript.document.Unanswered failingHost
      (s.runScript failingHost greetingScript).1.result ∧
    (s.step (.run "k" failingHost)).cache = s.cache := by
  intro s
  have hcached : (Session.steps {} greetings).cache.get? "s" = some "hello" := by decide +kernel
  have habsent : (Session.steps {} greetings).cache.get? "u" = none := by decide +kernel
  have hresponse : (s.runScript failingHost greetingScript).1.result.toOption.bind (·.response) =
      some (diagnostic (AgentError.failed "echo" "rate limited").message) := by decide +kernel
  cases hresult : (s.runScript failingHost greetingScript).1.result with
  | error e => rw [hresult] at hresponse; cases hresponse
  | ok out =>
    have hfailed : greetingScript.document.Unanswered failingHost (.ok out) :=
      .failed rfl rfl (NameMap.get?_insert_self ..) rfl
    refine ⟨hcached, ((cached_iff_last_response greetings "s").1 "hello").1 hcached, habsent,
      (cached_iff_last_response greetings "u").2.1.1 habsent, hfailed, ?_⟩
    rw [← hresult] at hfailed
    exact (cached_iff_last_response greetings "s").2.2 s "k" failingHost greetingScript
      (NameMap.get?_insert_self ..) hfailed

end Session

end PromptScript
