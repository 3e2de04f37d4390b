import PromptScript.Proofs.Cancelled
import PromptScript.Proofs.Rendering
import PromptScript.Proofs.ResultMark

/-!
# Proofs.ShownRuns

What the command line shows of a run. A document without an agent is shown by its text; one with an
agent is shown by what the agent prints while it answers. That is the response, unless the agent is
not there: then the response is a diagnostic, and nobody prints it (`shown_iff_registered`).
-/

namespace PromptScript

/-! ## What a run prints -/

/-- What a log shows as printed. -/
def printedText (log : List Event) : String := String.join (log.filterMap Event.printedChunk?)

/-- The event prints nothing. -/
def Event.Unprinted (e : Event) : Prop := e.printedChunk? = none

theorem unprinted_of_asked {source : ItemSource} (log events : List Event) (cancels : Bool)
    (h : source.Asked log events cancels) : ∀ e ∈ events, e.Unprinted := by
  intro e he
  cases h with
  | lists h =>
    cases h
    rw [List.mem_singleton.1 he]
    rfl
  | checks =>
    rw [List.mem_singleton.1 he]
    rfl

theorem printedChunks_of_grows {p q : Progress Event} (h : p.Grows q Event.Unprinted) :
    q.log.filterMap Event.printedChunk? = p.log.filterMap Event.printedChunk? := by
  obtain ⟨added, hlog, hadded, _⟩ := h
  rw [hlog, List.filterMap_append, List.filterMap_eq_nil_iff.2 hadded, List.append_nil]

theorem filterMap_printedChunk?_map (chunks : List String) :
    (chunks.map Event.printed).filterMap Event.printedChunk? = chunks := by
  induction chunks with
  | nil => rfl
  | cons chunk rest ih =>
    have hfirst : (Event.printed chunk).printedChunk? = some chunk := rfl
    rw [List.map_cons, List.filterMap_cons_some hfirst, ih]

/-- How the printed text and the response of a completed run go together. -/
inductive Prints (host : Host) (agent : Option String) : Option String → String → Prop where
  /-- The document names no agent. -/
  | unnamed : agent = none → Prints host agent none ""
  /-- The host has no such agent. -/
  | absent {name : String} : agent = some name → host.agents.get? name = none →
      Prints host agent (some (diagnostic (AgentError.unknown name).message)) ""
  | answered {name : String} {a : Agent} (prompt : String) : agent = some name →
      host.agents.get? name = some a → (a prompt).ending.result? = some (.ok ()) →
      Prints host agent (some (String.join (a prompt).chunks)) (String.join (a prompt).chunks)
  | failed {name : String} {a : Agent} (prompt : String) {e : AgentError} : agent = some name →
      host.agents.get? name = some a → (a prompt).ending.result? = some (.error e) →
      Prints host agent (some (diagnostic e.message)) (String.join (a prompt).chunks)

section Runs

variable {host : Host} {script : String} {cache cache' : ResponseCache} {p q : Progress Event}

theorem Agent.run_eq_some {name prompt : String} {agent : Agent}
    {r : Except AgentError String} (h : agent.run p name prompt = (some r, q)) :
    q.log = p.log ++ .started name prompt :: (agent prompt).chunks.map .printed ∧
      ∃ ending, (agent prompt).ending.result? = some ending ∧
        r = ending.map fun _ => String.join (agent prompt).chunks := by
  simp only [Agent.run] at h
  obtain ⟨_, hresult, rfl⟩ := Progress.attempt_eq_some h
  refine ⟨rfl, ?_⟩
  rw [Agent.response] at hresult
  cases hending : (agent prompt).ending with
  | finishes ending => rw [hending] at hresult; exact ⟨ending, rfl, (Option.some.inj hresult).symm⟩
  | cancelsAndFinishes ending =>
    rw [hending] at hresult
    exact ⟨ending, rfl, (Option.some.inj hresult).symm⟩
  | cancelsAndHangs => rw [hending] at hresult; cases hresult

/-- After a log that shows nothing as printed, the hand-off prints what the agent sends. -/
theorem prints_of_handOffTo? {agent : Option String} {text : String} {response : Option String}
    (hp : p.log.filterMap Event.printedChunk? = [])
    (h : handOffTo? host script agent text cache p = (.ok response, cache', q)) :
    Prints host agent response (printedText q.log) := by
  cases agent with
  | none =>
    cases h
    rw [printedText, hp]
    exact .unnamed rfl
  | some name =>
    rw [handOffTo?, handOff] at h
    cases hagent : host.agents.get? name with
    | none =>
      rw [hagent] at h
      cases h
      rw [printedText, hp]
      exact .absent rfl hagent
    | some agent =>
      rw [hagent] at h
      dsimp only at h
      rcases hrun : agent.run p name text with ⟨_ | r, q'⟩
      · rw [hrun] at h
        cases h
      · obtain ⟨hlog, ending, hending, rfl⟩ := Agent.run_eq_some hrun
        have hprinted : printedText q'.log = String.join (agent text).chunks := by
          rw [printedText, hlog, List.filterMap_append, hp, List.filterMap_cons_none rfl,
            filterMap_printedChunk?_map, List.nil_append]
        rw [hrun] at h
        cases ending with
        | error e =>
          cases h
          rw [hprinted]
          exact .failed text rfl hagent hending
        | ok _ =>
          cases h
          rw [hprinted]
          exact .answered text rfl hagent hending

/-- A run prints nothing before it hands its text off. -/
theorem prints_of_run {d : Document} {context : Context} {out : RunOutput}
    (h : d.run host script context cache {} = (.ok out, cache', q)) :
    Prints host d.header.agent out.response (printedText q.log) := by
  obtain ⟨s, p₁, text, hvars, hbody, hhand, _⟩ := run_eq_ok h
  have hlists : ∀ log events cancels, host.source.Lists log events cancels →
      host.source.Asked log events cancels := fun _ _ _ => .lists
  have hasked := (reaches_renderVariables hvars).trans ((reaches_expandBody hbody).mono hlists)
  exact prints_of_handOffTo? (printedChunks_of_grows (hasked.grows unprinted_of_asked)) hhand

end Runs

/-! ## Runs of the command line -/

/-- Works that leave the token alone. -/
theorem Progress.Reaches.cancelled_eq {ε : Type u} {works : Progress.Works ε} {p q : Progress ε}
    (h : p.Reaches works q)
    (hcalm : ∀ log events cancels, works log events cancels → cancels = false) :
    q.cancelled = p.cancelled := by
  induction h with
  | refl => rfl
  | start hwork _ ih => exact ih.trans (hcalm _ _ _ hwork)

theorem get?_withEcho (name : String) :
    AgentRegistry.withEcho.get? name = if name = Agent.echoName then some Agent.echo else none :=
  NameMap.get?_insert ..

/-- Neither files nor the built-in agent ever cancel a run. -/
theorem calm_of_works {s : FileSource} (log events : List Event) (cancels : Bool)
    (h : Host.Works ⟨s.toItemSource, .withEcho⟩ log events cancels) : cancels = false := by
  cases h with
  | asked h =>
    cases h with
    | lists h => cases h; rfl
    | checks => rfl
  | executes h =>
    cases h with
    | @intro _ name agent prompt hagent =>
      rw [get?_withEcho] at hagent
      split at hagent
      · cases hagent
        rfl
      · cases hagent

theorem completes_run (s : FileSource) (d : Document) (script : String) (context : Context) :
    ∃ o cache q, d.run ⟨s.toItemSource, .withEcho⟩ script context .empty {} =
      (.ok o, cache, q) := by
  have hcalm : (d.run ⟨s.toItemSource, .withEcho⟩ script context .empty {}).2.2.cancelled = false :=
    (reaches_run rfl).cancelled_eq calm_of_works
  obtain ⟨o, cache, q, hrun, _⟩ := run_completes hcalm
  exact ⟨o, cache, q, hrun⟩

theorem eq_ok_of_toOption {ε α : Type} {x : Except ε α} {a : α} (h : x.toOption = some a) :
    x = .ok a := by
  cases x with
  | error e => cases h
  | ok b => exact congrArg _ (Option.some.inj h)

theorem runCommandLine_eq {here : Place} {arguments : List String} {settings : Settings}
    {command : Command} {config : Config}
    (harguments : readArguments arguments = .ok (settings, command))
    (hconfig : Config.load here settings.config settings.root = .ok config) :
    runCommandLine here arguments = command.outcome ⟨here, settings, config⟩ := by
  rw [runCommandLine, harguments]
  dsimp only
  rw [hconfig]

theorem withDocument_eq {w : Workspace} {file text : String} {d : Document}
    (hread : w.here.readText (textBytes file) = .ok text) (hcompile : Document.compile text = .ok d)
    (use : Document → Outcome) : withDocument w file use = use d := by
  rw [withDocument, hread]
  dsimp only
  rw [hcompile]

/-- What is shown of a run that completes. -/
theorem runScriptCommand_eq {w : Workspace} {file text : String} {bindings : List (String × String)}
    {d : Document} {o : RunOutput} {cache : ResponseCache} {q : Progress Event}
    (htext : w.settings.output = .text) (hread : w.here.readText (textBytes file) = .ok text)
    (hcompile : Document.compile text = .ok d)
    (hrun : d.run ⟨w.source.toItemSource, .withEcho⟩ file (contextOf file bindings) .empty {} =
      (.ok o, cache, q)) :
    (runScriptCommand w file bindings).code = 0 ∧ (runScriptCommand w file bindings).output =
      if d.header.agent.isSome then printedText q.log else o.text := by
  rw [runScriptCommand, withDocument_eq hread hcompile]
  dsimp only
  rw [hrun, htext]
  exact ⟨rfl, rfl⟩

/-- With the built-in agent alone, the printed text of a document with an agent is its response
unless that agent is another one. -/
theorem Prints.shown_iff {source : ItemSource} {agent response : Option String}
    {printed text output : String} (h : Prints ⟨source, .withEcho⟩ agent response printed)
    (houtput : output = if agent.isSome then printed else text) :
    response.isSome = agent.isSome ∧
      (output = response.getD text ↔
        ∀ name, agent = some name → AgentRegistry.withEcho.contains name = true) ∧
      ∀ name, agent = some name → AgentRegistry.withEcho.contains name = false →
        response = some (diagnostic (AgentError.unknown name).message) ∧ output = "" := by
  cases h with
  | unnamed hagent =>
    subst hagent
    exact ⟨rfl, ⟨nofun, fun _ => houtput⟩, nofun⟩
  | @absent name hagent hget =>
    subst hagent
    refine ⟨rfl, ⟨fun h => ?_, fun h => ?_⟩, ?_⟩
    · have hempty : "" = diagnostic (AgentError.unknown name).message := houtput.symm.trans h
      have hmarked := isDiagnostic_diagnostic (AgentError.unknown name).message
      rw [← hempty] at hmarked
      cases hmarked
    · have hcontains := h name rfl
      rw [NameMap.contains, hget] at hcontains
      cases hcontains
    · rintro _ ⟨⟩ -
      exact ⟨rfl, houtput⟩
  | @answered name _ _ hagent hget _ =>
    subst hagent
    have hcontains : AgentRegistry.withEcho.contains name = true := by
      rw [NameMap.contains, hget]
      rfl
    refine ⟨rfl, ⟨?_, fun _ => houtput⟩, ?_⟩
    · rintro - _ ⟨⟩
      exact hcontains
    · rintro _ ⟨⟩ habsent
      rw [hcontains] at habsent
      cases habsent
  | failed _ _ hget hending =>
    -- The only agent there is sends its prompt back and does not fail.
    rw [get?_withEcho] at hget
    split at hget
    · cases hget
      cases hending
    · cases hget

/-- As text, a run is shown by its response if the document names an agent, and by its text
otherwise, if and only if the agent that it names is registered. A diagnostic about an agent that is
not there is the response of the run, but nothing is shown. -/
theorem shown_iff_registered (here : Place) (arguments : List String) (settings : Settings)
    (config : Config) (file : String) (bindings : List (String × String)) (text : String)
    (d : Document) (harguments : readArguments arguments = .ok (settings, .run file bindings))
    (hconfig : Config.load here settings.config settings.root = .ok config)
    (houtput : settings.output = .text) (hread : here.readText (textBytes file) = .ok text)
    (hcompile : Document.compile text = .ok d) :
    let source : FileSource := ⟨here, textBytes settings.root, config.limits⟩
    let shown := runCommandLine here arguments
    ∃ o cache q, d.run ⟨source.toItemSource, .withEcho⟩ file (contextOf file bindings) .empty {} =
        (.ok o, cache, q) ∧
      shown.code = 0 ∧ o.response.isSome = d.header.agent.isSome ∧
      (shown.output = o.response.getD o.text ↔
        ∀ name, d.header.agent = some name → AgentRegistry.withEcho.contains name = true) ∧
      ∀ name, d.header.agent = some name → AgentRegistry.withEcho.contains name = false →
        o.response = some (diagnostic (AgentError.unknown name).message) ∧ shown.output = "" := by
  intro source shown
  obtain ⟨o, cache, q, hrun⟩ := completes_run source d file (contextOf file bindings)
  have hcommand : shown = runScriptCommand ⟨here, settings, config⟩ file bindings :=
    runCommandLine_eq harguments hconfig
  obtain ⟨hcode, hshown⟩ := runScriptCommand_eq (w := ⟨here, settings, config⟩) houtput hread
    hcompile hrun
  rw [← hcommand] at hcode hshown
  exact ⟨o, cache, q, hrun, hcode, (prints_of_run hrun).shown_iff hshown⟩

/-- A script for the built-in agent, run with a value for a variable. -/
theorem shown_iff_registered_echo :
    let script := "---\nagent: echo\n---\nin $language\n"
    let here : Place := ⟨[(textBytes "s.shire", .file script.toUTF8)], []⟩
    let arguments := ["run", "s.shire", "--var", "language=rust"]
    let source : FileSource := ⟨here, textBytes ".", ({} : Config).limits⟩
    ∃ text d o cache q, here.readText (textBytes "s.shire") = .ok text ∧
      Document.compile text = .ok d ∧
      d.run ⟨source.toItemSource, .withEcho⟩ "s.shire"
        (contextOf "s.shire" [("language", "rust")]) .empty {} = (.ok o, cache, q) ∧
      o.response = some "in rust\n" ∧ (runCommandLine here arguments).output = "in rust\n" := by
  intro script here arguments source
  have hread : here.readText (textBytes "s.shire") = .ok "---\nagent: echo\n---\nin $language\n" :=
    eq_ok_of_toOption (by decide +kernel)
  have hmap : (Document.compile "---\nagent: echo\n---\nin $language\n").toOption.map
      (·.header.agent) = some (some "echo") := by decide +kernel
  obtain ⟨d, hd, hagent⟩ := Document.compiled_of_map hmap
  have hshown : (runCommandLine here arguments).output = "in rust\n" := by decide +kernel
  obtain ⟨o, cache, q, hrun, -, hresponse, hiff, -⟩ := shown_iff_registered here arguments {} {}
    "s.shire" [("language", "rust")] _ d (eq_ok_of_toOption (by decide +kernel))
    (eq_ok_of_toOption (by decide +kernel)) rfl hread hd
  have hregistered := hiff.2 (by rw [hagent]; rintro _ ⟨⟩; decide +kernel)
  rw [hagent] at hresponse
  obtain ⟨response, hsome⟩ := Option.isSome_iff_exists.1 hresponse
  rw [hsome, hshown] at hregistered
  exact ⟨_, d, o, cache, q, hread, hd, hrun, hsome.trans (congrArg some hregistered.symm), hshown⟩

/-- A script for an agent that is not there ends well and shows nothing, although its response tells
what is wrong. -/
theorem absent_agent_not_shown :
    let here : Place := ⟨[(textBytes "s.shire", .file "---\nagent: nope\n---\nhi\n".toUTF8)], []⟩
    let source : FileSource := ⟨here, textBytes ".", ({} : Config).limits⟩
    let arguments := ["run", "s.shire"]
    (here.readText (textBytes "s.shire")).toOption = some "---\nagent: nope\n---\nhi\n" ∧
      (runCommandLine here arguments).code = 0 ∧ (runCommandLine here arguments).output = "" ∧
      (Document.compile "---\nagent: nope\n---\nhi\n").toOption.map (fun d =>
          (d.run ⟨source.toItemSource, .withEcho⟩ "s.shire" (contextOf "s.shire" [])
            .empty {}).1.toOption.map (·.response)) =
        some (some (some "<SHIRE_ERROR>: unknown agent 'nope'")) := by
  intro here source arguments
  refine ⟨by decide +kernel, by decide +kernel, by decide +kernel, by decide +kernel⟩

end PromptScript
