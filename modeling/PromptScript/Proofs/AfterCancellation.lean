import PromptScript.Proofs.Cancelled

/-!
# Proofs.AfterCancellation

What happens after a token is cancelled: nothing is started any more. The token is cancelled before
the run, or by a work that the run starts, and the log tells which work that was
(`Host.CancelledIn`). What the log shows after it are the chunks that this work prints. The
response cache changes only if the work is an agent that still answers in full.
-/

namespace PromptScript

/-- The event shows that a work begins. A printed chunk belongs to the work before it. -/
def Event.Starts : Event → Prop
  | .printed _ => False
  | _ => True

namespace Host

variable (host : Host)

/-- Whether the work that an event starts after the log cancels the token. -/
def cancels (log : List Event) : Event → Bool
  | .enumerated => (host.source.enumerate log).cancels
  | .checked path => (host.source.isEligible log path).cancels
  | .started name prompt =>
    match host.agents.get? name with
    | some agent => (agent prompt).ending.cancels
    | none => false
  | .printed _ => false

/-- The response of the agent that an event starts, if the agent answers in full. -/
def answer? : Event → Option String
  | .started name prompt =>
    match host.agents.get? name with
    | some agent => (Agent.response (agent prompt)).result?.bind Except.toOption
    | none => none
  | _ => none

/-- On the way from `p` to `q` the work that `e` starts cancelled the token; the log shows `before`
and `after` around it. -/
def CancelledIn (p q : Progress Event) (before : List Event) (e : Event) (after : List Event) :
    Prop :=
  q.log = p.log ++ before ++ e :: after ∧ host.cancels (p.log ++ before) e = true

/-- From `p` to `q` nothing is started once the token is cancelled. -/
structure Stops (p q : Progress Event) : Prop where
  log_prefix : p.log <+: q.log
  eq_of_cancelled : p.cancelled = true → q = p
  quiet : ∀ before e after, host.CancelledIn p q before e after → ∀ e' ∈ after, ¬ e'.Starts
  /-- There is no other way for the token to be cancelled. -/
  cancelled_iff : q.cancelled = true ↔
    p.cancelled = true ∨ ∃ before e after, host.CancelledIn p q before e after

variable {host} {p q r : Progress Event} {log events before after : List Event} {e e' : Event}
  {cancels : Bool}

/-- A work shows itself by one event, and by what it prints. -/
theorem works_cases (h : host.Works log events cancels) :
    ∃ e, ∃ chunks : List String,
      events = e :: chunks.map .printed ∧ host.cancels log e = cancels := by
  cases h with
  | asked h =>
    cases h with
    | lists h => cases h; exact ⟨.enumerated, [], rfl, rfl⟩
    | checks _ path => exact ⟨.checked path, [], rfl, rfl⟩
  | executes h =>
    cases h with
    | @intro _ name agent prompt hagent =>
      refine ⟨.started name prompt, (agent prompt).chunks, rfl, ?_⟩
      rw [Host.cancels, hagent]

/-- A cancelling work on the way through `q` comes before `q` or after it. -/
theorem CancelledIn.of_trans {a b : List Event} (h : host.CancelledIn p r before e after)
    (hpq : q.log = p.log ++ a) (hqr : r.log = q.log ++ b) :
    (∃ after', host.CancelledIn p q before e after' ∧ after = after' ++ b) ∨
      ∃ before', before = a ++ before' ∧ host.CancelledIn q r before' e after := by
  obtain ⟨hlog, hcancels⟩ := h
  rw [hqr, hpq, List.append_assoc, List.append_assoc, List.append_cancel_left_eq] at hlog
  rcases List.append_eq_append_iff.1 hlog with ⟨rest, rfl, hb⟩ | ⟨rest, rfl, hrest⟩
  · refine .inr ⟨rest, rfl, ?_, ?_⟩
    · rw [hqr, hb, List.append_assoc]
    · rw [hpq, List.append_assoc]
      exact hcancels
  · cases rest with
    | nil =>
      rw [List.append_nil] at hpq
      refine .inr ⟨[], by rw [List.append_nil, List.append_nil], ?_, ?_⟩
      · rw [hqr, List.append_nil]
        exact congrArg _ hrest.symm
      · rw [List.append_nil, hpq]
        exact hcancels
    | cons e' rest =>
      obtain ⟨rfl, rfl⟩ := List.cons_eq_cons.1 hrest
      exact .inl ⟨rest, ⟨by rw [hpq, List.append_assoc], hcancels⟩, rfl⟩

/-- Of what one work adds to the log only the first event can be one that cancels. -/
theorem CancelledIn.of_work {chunks : List String} (h : host.CancelledIn p q before e' after)
    (hlog : q.log = p.log ++ e :: chunks.map .printed) :
    before = [] ∧ e' = e ∧ after = chunks.map .printed := by
  obtain ⟨hsplit, hcancels⟩ := h
  rw [hlog, List.append_assoc, List.append_cancel_left_eq] at hsplit
  cases before with
  | nil =>
    obtain ⟨rfl, rfl⟩ := List.cons_eq_cons.1 hsplit
    exact ⟨rfl, rfl, rfl⟩
  | cons first rest =>
    have hmem : e' ∈ chunks.map Event.printed := by
      rw [(List.cons_eq_cons.1 hsplit).2]
      exact List.mem_append_right _ List.mem_cons_self
    obtain ⟨chunk, _, rfl⟩ := List.mem_map.1 hmem
    cases hcancels

theorem Stops.refl (p : Progress Event) : host.Stops p p where
  log_prefix := List.prefix_rfl
  eq_of_cancelled := fun _ => rfl
  quiet := by
    rintro before e after ⟨hlog, _⟩
    simp at hlog
  cancelled_iff := by
    refine ⟨.inl, ?_⟩
    rintro (hp | ⟨before, e, after, hlog, _⟩)
    · exact hp
    · simp at hlog

section OneWork

variable {chunks : List String}

/-- What follows a cancelling work that was the first are its own chunks. -/
theorem quiet_of_work (hlog : q.log = p.log ++ e :: chunks.map .printed)
    (hcancels : host.cancels p.log e = q.cancelled) (hrest : host.Stops q r)
    (h : host.CancelledIn p r before e' after) : ∀ e'' ∈ after, ¬ e''.Starts := by
  obtain ⟨added, hadded⟩ := hrest.log_prefix
  rcases h.of_trans hlog hadded.symm with ⟨after', hthis, rfl⟩ | ⟨before', rfl, hlater⟩
  · obtain ⟨rfl, rfl, rfl⟩ := hthis.of_work hlog
    -- the token is cancelled when the work ends, so nothing is added after it
    have hq : q.cancelled = true := by
      rw [← hcancels, ← List.append_nil p.log]
      exact hthis.2
    rw [hrest.eq_of_cancelled hq, List.append_right_eq_self] at hadded
    intro e'' he''
    rw [hadded, List.append_nil] at he''
    obtain ⟨chunk, _, rfl⟩ := List.mem_map.1 he''
    exact id
  · exact hrest.quiet before' e' after hlater

theorem cancelled_iff_of_work (hlog : q.log = p.log ++ e :: chunks.map .printed)
    (hcancels : host.cancels p.log e = q.cancelled) (hrest : host.Stops q r) :
    r.cancelled = true ↔ ∃ before e after, host.CancelledIn p r before e after := by
  obtain ⟨added, hadded⟩ := hrest.log_prefix
  rw [hrest.cancelled_iff]
  constructor
  · rintro (hq | ⟨before, e', after, hsplit, hlater⟩)
    · refine ⟨[], e, chunks.map .printed, ?_, ?_⟩
      · rw [hrest.eq_of_cancelled hq, hlog, List.append_nil]
      · rw [List.append_nil, hcancels, hq]
    · refine ⟨e :: chunks.map .printed ++ before, e', after, ?_, ?_⟩
      · rw [hsplit, hlog, List.append_assoc p.log]
      · rw [hlog, List.append_assoc] at hlater
        exact hlater
  · rintro ⟨before, e', after, h⟩
    rcases h.of_trans hlog hadded.symm with ⟨after', hthis, rfl⟩ | ⟨before', rfl, hlater⟩
    · obtain ⟨rfl, rfl, rfl⟩ := hthis.of_work hlog
      refine .inl ?_
      rw [← hcancels, ← List.append_nil p.log]
      exact hthis.2
    · exact .inr ⟨before', e', after, hlater⟩

end OneWork

/-- One work, and then all that follows it. -/
theorem Stops.start (hwork : host.Works log events cancels)
    (hrest : host.Stops ⟨cancels, log ++ events⟩ q) : host.Stops ⟨false, log⟩ q := by
  obtain ⟨e, chunks, rfl, rfl⟩ := works_cases hwork
  refine ⟨(List.prefix_append _ _).trans hrest.log_prefix,
    fun hfalse => absurd hfalse Bool.false_ne_true,
    fun before e' after h => quiet_of_work rfl rfl hrest h, ?_⟩
  rw [cancelled_iff_of_work (p := ⟨false, log⟩) rfl rfl hrest]
  exact ⟨.inr, fun h => h.resolve_left Bool.false_ne_true⟩

theorem stops_of_reaches (h : p.Reaches host.Works q) : host.Stops p q := by
  induction h with
  | refl => exact .refl _
  | start hwork _ ih => exact .start hwork ih

end Host

/-! ## The response cache -/

section Runs

variable {host : Host} {script : String} {cache cache' : ResponseCache} {p q : Progress Event}

/-- An agent was executed under a token that was not cancelled, and its response is kept. -/
structure Remembers (host : Host) (script : String) (cache cache' : ResponseCache)
    (p q : Progress Event) (e : Event) : Prop where
  uncancelled : p.cancelled = false
  log : ∃ chunks : List String, q.log = p.log ++ e :: chunks.map .printed
  cache : ∃ response, host.answer? e = some response ∧ cache' = cache.insert script response

theorem cache_of_handOffTo? {agent : Option String} {text : String}
    {r : Except RunError (Option String)}
    (h : handOffTo? host script agent text cache p = (r, cache', q)) :
    cache' = cache ∨ ∃ e, Remembers host script cache cache' p q e := by
  cases agent with
  | none => cases h; exact .inl rfl
  | some name =>
    rw [handOffTo?] at h
    rcases hhand : handOff host script name text cache p with ⟨r', cache'', q'⟩
    have hlast : cache' = cache'' ∧ q = q' := by
      rw [hhand] at h
      cases r' <;> cases h <;> exact ⟨rfl, rfl⟩
    obtain ⟨rfl, rfl⟩ := hlast
    rw [handOff] at hhand
    split at hhand
    · cases hhand; exact .inl rfl
    · rename_i agent hagent
      split at hhand
      · cases hhand; exact .inl rfl
      · cases hhand; exact .inl rfl
      · rename_i response p₁ hrun
        cases hhand
        simp only [Agent.run] at hrun
        obtain ⟨hp, hresponse, rfl⟩ := Progress.attempt_eq_some hrun
        refine .inr ⟨.started name text, hp, ⟨_, rfl⟩, response, ?_, rfl⟩
        rw [Host.answer?, hagent]
        simp only [hresponse]
        rfl

theorem cache_of_run {d : Document} {context : Context} {r : Except RunError RunOutput}
    (h : d.run host script context cache p = (r, cache', q)) :
    cache' = cache ∨ ∃ p₁ e, p.Reaches host.Works p₁ ∧
      Remembers host script cache cache' p₁ q e := by
  rcases run_cases h with ⟨hcache, _⟩ | ⟨text, p₁, response, hasked, hhand⟩
  · exact .inl hcache
  · rcases cache_of_handOffTo? hhand with hcache | ⟨e, hremembers⟩
    · exact .inl hcache
    · exact .inr ⟨p₁, e, hasked.mono fun _ _ _ => .asked, hremembers⟩

/-- The work that cancelled a run which keeps a response is the agent's own. -/
theorem Remembers.of_cancelledIn {p₁ : Progress Event} {before after : List Event} {e e' : Event}
    (h : Remembers host script cache cache' p₁ q e') (hstops : host.Stops p p₁)
    (hcancelled : host.CancelledIn p q before e after) : e = e' := by
  obtain ⟨added, hadded⟩ := hstops.log_prefix
  obtain ⟨chunks, hlog⟩ := h.log
  rcases hcancelled.of_trans hadded.symm hlog with ⟨after', hearlier, _⟩ | ⟨before', _, hthis⟩
  · have hp₁ := hstops.cancelled_iff.2 (.inr ⟨before, e, after', hearlier⟩)
    rw [h.uncancelled] at hp₁
    cases hp₁
  · exact (hthis.of_work hlog).2.1

/-- Nothing starts once the token is cancelled. A response is kept then only if it is that of the
agent which was at work and answered in full. A run is given up only if the token is cancelled. -/
theorem nothing_starts_after_cancellation {d : Document} {context : Context}
    {r : Except RunError RunOutput} (h : d.run host script context cache p = (r, cache', q)) :
    host.Stops p q ∧ (p.cancelled = true → cache' = cache) ∧
      (∀ before e after, host.CancelledIn p q before e after → cache' = cache ∨
        ∃ response, host.answer? e = some response ∧ cache' = cache.insert script response) ∧
      (r = .error .cancelled → q.cancelled = true) := by
  refine ⟨Host.stops_of_reaches (reaches_run h), ?_, ?_, ?_⟩
  · intro hp
    rcases cache_of_run h with hcache | ⟨p₁, e, hreaches, hremembers⟩
    · exact hcache
    · have hp₁ := hremembers.uncancelled
      rw [(Host.stops_of_reaches hreaches).eq_of_cancelled hp, hp] at hp₁
      cases hp₁
  · intro before e after hcancelled
    rcases cache_of_run h with hcache | ⟨p₁, e', hreaches, hremembers⟩
    · exact .inl hcache
    · have he := hremembers.of_cancelledIn (Host.stops_of_reaches hreaches) hcancelled
      exact .inr (he ▸ hremembers.cache)
  · rintro rfl
    exact cancelled_of_run_eq_error h

end Runs

/-- A source of two items that cancels the token while it is asked about one of them, and
answers. -/
def interrupting : ItemSource where
  enumerate _ := .finishes (.ok ["a", "b"])
  isEligible _ _ := .cancelsAndFinishes true

/-- After the first item this document has another to check, a command to run and an agent to
start. -/
def interruptedText : String :=
  "---\nvariables:\n  all: /.*/ \x7b xargs(\"file\") \x7d\nagent: echo\n---\n" ++
    "$all @file-func:regex(.*)\n"

theorem nothing_starts_after_cancellation_check :
    let host : Host := ⟨interrupting, .withEcho⟩
    ∃ d cache q, Document.compile interruptedText = .ok d ∧
      d.run host "s" {} .empty {} = (.error .cancelled, cache, q) ∧
      q.log = [.enumerated, .checked "a"] ∧
      host.CancelledIn {} q [.enumerated] (.checked "a") [] ∧ host.Stops {} q ∧ cache = .empty := by
  intro host
  have hlog : (Document.compile interruptedText).toOption.map (fun d =>
      let r := d.run host "s" {} .empty {}
      (r.1.toOption.isNone, r.2.2.log)) = some (true, [.enumerated, .checked "a"]) := by
    decide +kernel
  cases hd : Document.compile interruptedText with
  | error e => rw [hd] at hlog; cases hlog
  | ok d =>
    rw [hd] at hlog
    rcases hrun : d.run host "s" {} .empty {} with ⟨e | out, cache, q⟩
    · simp only [Except.toOption, Option.map_some, hrun, Option.some.injEq, Prod.mk.injEq] at hlog
      have hcancelled : host.CancelledIn {} q [.enumerated] (.checked "a") [] := ⟨hlog.2, rfl⟩
      obtain ⟨hstops, _, hcache, _⟩ := nothing_starts_after_cancellation hrun
      refine ⟨d, cache, q, rfl, by cases e; exact hrun, hlog.2, hcancelled, hstops, ?_⟩
      rcases hcache _ _ _ hcancelled with hsame | ⟨response, hresponse, _⟩
      · exact hsame
      · cases hresponse
    · simp [Except.toOption, hrun] at hlog

end PromptScript
