import PromptScript.Proofs.AfterCancellation
import PromptScript.Proofs.Rendering

/-!
# Proofs.StartedCancelled

Runs whose token is cancelled before they begin. Such a run starts nothing, prints nothing and
leaves the response cache alone. It is given up only where something looks at the token: a
pipeline, a command of the body, or an agent that is there. A document without any of these runs to
its end and yields its text all the same (`run_started_cancelled`).
-/

namespace PromptScript

/-! ## Documents that need no work -/

/-- The text of a value that is rendered without a pipeline, `none` if it takes one. -/
def Value.still? (s : Scene) : Value → Option String
  | .action _ => none
  | .text _ => none
  | .caseMatch m => if (m.select (s.fill m.subject)).isNone then some "" else none
  | v => some v.plain

/-- The scene after declarations that are all rendered without a pipeline. -/
def Scene.still? (s : Scene) : List Declaration → Option Scene
  | [] => some s
  | d :: rest =>
    match d.value.still? s with
    | none => none
    | some text =>
      Scene.still? { s with rendered := s.rendered.insert (canonicalName d.name) text } rest

def BodyPart.isPlain : BodyPart → Bool
  | .plain _ => true
  | .command _ => false

/-- Nothing in a run of the document looks at the token: no value takes a pipeline, the body holds
no command, and no agent of the host is named. -/
def Document.overlooksCancellation (d : Document) (host : Host) (context : Context) : Bool :=
  (Scene.still? ⟨context, .empty⟩ d.header.declarations).isSome &&
    (bodyParts d.body).all BodyPart.isPlain &&
    d.header.agent.all fun name => !host.agents.contains name

/-! ## The parts of a run -/

section Parts

variable {source : ItemSource} {p : Progress Event} {s : RunState}

/-- A pipeline has a verb, and looks at the token before it. -/
theorem runPipeline_of_cancelled {ε : Type} {p : Progress ε} (hp : p.cancelled = true)
    (invoker : Invoker ε) (a : Action) (candidates : List String) :
    runPipeline invoker a candidates p = (.error .cancelled, p) := by
  obtain ⟨trigger, verbs, hverbs⟩ := a
  cases verbs with
  | nil => exact absurd rfl hverbs
  | cons v rest => exact if_pos hp

theorem runFilled_of_cancelled (hp : p.cancelled = true) (scene : Scene) (a : Action)
    (candidates : List String) :
    runFilled source scene p a candidates = (.error .cancelled, p) := by
  rw [runFilled, runPipeline_of_cancelled hp]

theorem runAction_of_cancelled (hp : s.progress.cancelled = true) (hlisting : s.listing = none)
    (a : Action) : runAction source s a = (.error .cancelled, s) := by
  obtain ⟨scene, listing, failures, progress⟩ := s
  cases hlisting
  rw [runAction, listItems]
  simp only [ItemSource.list, Progress.attempt_of_cancelled hp]

theorem renderValue_of_cancelled (hp : s.progress.cancelled = true) (hlisting : s.listing = none)
    (v : Value) :
    renderValue source s v =
      (match v.still? s.scene with
        | some text => .ok { text := text }
        | none => .error .cancelled, s) := by
  cases v with
  | action a => exact runAction_of_cancelled hp hlisting a
  | caseMatch m =>
    rw [renderValue, Value.still?]
    cases m.select (s.scene.fill m.subject) with
    | none => rfl
    | some a => exact runAction_of_cancelled hp hlisting a
  | text t => rw [renderValue, runFilled_of_cancelled hp]; rfl
  | number n => rfl
  | date t => rfl
  | flag b => rfl
  | list items => rfl
  | record fields => rfl

theorem renderVariables_of_still (source : ItemSource) {ds : List Declaration} {scene : Scene}
    (hp : s.progress.cancelled = true) (hlisting : s.listing = none)
    (h : s.scene.still? ds = some scene) :
    ∃ failures, renderVariables source s ds =
      (.ok (), { s with scene := scene, failures := failures }) := by
  induction ds generalizing s with
  | nil => cases h; exact ⟨s.failures, rfl⟩
  | cons d rest ih =>
    rw [Scene.still?] at h
    rw [renderVariables, renderValue_of_cancelled hp hlisting]
    cases hvalue : d.value.still? s.scene with
    | none => rw [hvalue] at h; cases h
    | some text =>
      rw [hvalue] at h
      exact ih (s := s.keep d.name { text := text }) hp hlisting h

theorem renderVariables_of_not_still (source : ItemSource) {ds : List Declaration}
    (hp : s.progress.cancelled = true) (hlisting : s.listing = none)
    (h : s.scene.still? ds = none) :
    (renderVariables source s ds).1 = .error .cancelled := by
  induction ds generalizing s with
  | nil => cases h
  | cons d rest ih =>
    rw [Scene.still?] at h
    rw [renderVariables, renderValue_of_cancelled hp hlisting]
    cases hvalue : d.value.still? s.scene with
    | none => rfl
    | some text =>
      rw [hvalue] at h
      exact ih (s := s.keep d.name { text := text }) hp hlisting h

theorem expandParts_of_plain (source : ItemSource) (p : Progress Event) (scene : Scene)
    {parts : List BodyPart}
    (h : parts.all BodyPart.isPlain = true) :
    ∃ texts, expandParts source scene p parts = (.ok texts, p) := by
  induction parts with
  | nil => exact ⟨[], rfl⟩
  | cons part rest ih =>
    rw [List.all_cons, Bool.and_eq_true] at h
    cases part with
    | plain text =>
      obtain ⟨texts, hrest⟩ := ih h.2
      rw [expandParts, hrest]
      exact ⟨_, rfl⟩
    | command call => cases h.1

theorem expandParts_of_command (source : ItemSource) (hp : p.cancelled = true) (scene : Scene)
    {parts : List BodyPart}
    (h : parts.all BodyPart.isPlain = false) :
    (expandParts source scene p parts).1 = .error .cancelled := by
  induction parts with
  | nil => cases h
  | cons part rest ih =>
    cases part with
    | plain text =>
      rw [List.all_cons, BodyPart.isPlain, Bool.true_and] at h
      have hrest := ih h
      rw [expandParts]
      rcases hrun : expandParts source scene p rest with ⟨e | texts, q⟩
      · cases e; rfl
      · rw [hrun] at hrest; cases hrest
    | command call =>
      -- the command is refused or comes to nothing, and then the token is looked at
      have hcommand : (showCommand source p (String.ofList call)).2 = p :=
        (reaches_showCommand rfl).eq_of_cancelled hp
      rw [expandParts]
      dsimp only
      rw [hcommand, if_pos hp]

theorem handOffTo?_of_absent {host : Host} (script text : String) (cache : ResponseCache)
    (p : Progress Event) {agent : Option String}
    (h : (agent.all fun name => !host.agents.contains name) = true) :
    ∃ response, handOffTo? host script agent text cache p = (.ok response, cache, p) := by
  cases agent with
  | none => exact ⟨none, rfl⟩
  | some name =>
    have habsent : host.agents.get? name = none := by
      simpa [NameMap.contains] using h
    rw [handOffTo?, handOff, habsent]
    exact ⟨_, rfl⟩

theorem handOffTo?_of_cancelled (hp : p.cancelled = true) {host : Host} (script text : String)
    (cache : ResponseCache) {agent : Option String}
    (h : (agent.all fun name => !host.agents.contains name) = false) :
    (handOffTo? host script agent text cache p).1 = .error .cancelled := by
  cases agent with
  | none => cases h
  | some name =>
    obtain ⟨a, hpresent⟩ : ∃ a, host.agents.get? name = some a := by
      simpa [NameMap.contains, Option.isSome_iff_exists] using h
    rw [handOffTo?, handOff, hpresent]
    simp only [Agent.run, Progress.attempt_of_cancelled hp]

end Parts

/-! ## The whole run -/

section Runs

variable {host : Host} {script : String} {d : Document} {context : Context} {cache : ResponseCache}
  {p : Progress Event}

/-- A run under a cancelled token leaves no trace. -/
theorem run_leaves_no_trace (hp : p.cancelled = true) :
    (d.run host script context cache p).2 = (cache, p) := by
  rcases hrun : d.run host script context cache p with ⟨r, cache', q⟩
  obtain rfl := (reaches_run hrun).eq_of_cancelled hp
  rcases cache_of_run hrun with rfl | ⟨p₁, e, hreaches, hremembers⟩
  · rfl
  · have hp₁ := hremembers.uncancelled
    rw [hreaches.eq_of_cancelled hp, hp] at hp₁
    cases hp₁

theorem run_of_overlooks (hp : p.cancelled = true)
    (h : d.overlooksCancellation host context = true) :
    ∃ out, (d.run host script context cache p).1 = .ok out := by
  rw [Document.overlooksCancellation, Bool.and_eq_true, Bool.and_eq_true] at h
  obtain ⟨⟨hstill, hplain⟩, habsent⟩ := h
  obtain ⟨scene, hscene⟩ := Option.isSome_iff_exists.1 hstill
  obtain ⟨failures, hvars⟩ := renderVariables_of_still host.source
    (s := { scene := ⟨context, .empty⟩, progress := p }) hp rfl hscene
  obtain ⟨texts, hbody⟩ := expandParts_of_plain host.source p scene hplain
  obtain ⟨response, hhand⟩ := handOffTo?_of_absent script (String.join texts) cache p habsent
  rw [Document.run, hvars]
  simp only [expandBody, hbody, hhand]
  exact ⟨_, rfl⟩

theorem overlooks_of_run (hp : p.cancelled = true) {out : RunOutput} {cache' : ResponseCache}
    {q : Progress Event} (h : d.run host script context cache p = (.ok out, cache', q)) :
    d.overlooksCancellation host context = true := by
  obtain ⟨s, p₁, text, hvars, hbody, hhand, _⟩ := run_eq_ok h
  rw [Document.overlooksCancellation, Bool.and_eq_true, Bool.and_eq_true]
  refine ⟨⟨?_, ?_⟩, ?_⟩
  · cases hstill : Scene.still? ⟨context, .empty⟩ d.header.declarations with
    | some scene => rfl
    | none =>
      have hfail := renderVariables_of_not_still host.source
        (s := { scene := ⟨context, .empty⟩, progress := p }) hp rfl hstill
      rw [hvars] at hfail
      cases hfail
  · have hs : s.progress = p := (reaches_renderVariables hvars).eq_of_cancelled hp
    rw [expandBody, hs] at hbody
    cases hplain : (bodyParts d.body).all BodyPart.isPlain with
    | true => rfl
    | false =>
      have hfail := expandParts_of_command host.source hp s.scene hplain
      rcases hparts : expandParts host.source s.scene p (bodyParts d.body) with ⟨e | texts, q'⟩
      · rw [hparts] at hbody; cases hbody
      · rw [hparts] at hfail; cases hfail
  · have hs : s.progress = p := (reaches_renderVariables hvars).eq_of_cancelled hp
    have hp₁ : p₁.cancelled = true := by
      rw [(reaches_expandBody hbody).eq_of_cancelled (by rw [hs]; exact hp), hs]
      exact hp
    cases habsent : d.header.agent.all fun name => !host.agents.contains name with
    | true => rfl
    | false =>
      have hfail := handOffTo?_of_cancelled hp₁ script text cache habsent
      rw [hhand] at hfail
      cases hfail

/-- A run that starts cancelled leaves no trace. It is given up if and only if something in it looks
at the token. -/
theorem run_started_cancelled (hp : p.cancelled = true) :
    (d.run host script context cache p).2 = (cache, p) ∧
      ((d.run host script context cache p).1 = .error .cancelled ↔
        d.overlooksCancellation host context = false) := by
  refine ⟨run_leaves_no_trace hp, ?_⟩
  rcases hrun : d.run host script context cache p with ⟨e | out, cache', q⟩
  · cases e
    refine ⟨fun _ => ?_, fun _ => rfl⟩
    rw [← Bool.not_eq_true]
    intro hoverlooks
    obtain ⟨out, hout⟩ : ∃ out, (d.run host script context cache p).1 = .ok out :=
      run_of_overlooks hp hoverlooks
    rw [hrun] at hout
    cases hout
  · rw [overlooks_of_run hp hrun]
    constructor <;> intro h <;> cases h

end Runs

/-- A host without items and agents. -/
def bareHost : Host := { source := .ofList [] }

/-- The command of this body is refused, and the token is looked at after it all the same. -/
def refusedText : String := "---\nvariables:\n  n: 3\n---\n$n @file-func:nope()\n"

theorem run_started_cancelled_refused :
    ∃ d, Document.compile refusedText = .ok d ∧ (⟨true, []⟩ : Progress Event).cancelled = true ∧
      (d.run bareHost "s" {} .empty ⟨true, []⟩).1 = .error .cancelled ∧
      (d.run bareHost "s" {} .empty ⟨true, []⟩).2 = (.empty, ⟨true, []⟩) := by
  have hoverlooks : (Document.compile refusedText).toOption.map (fun d =>
      d.overlooksCancellation bareHost {}) = some false := by decide +kernel
  cases hd : Document.compile refusedText with
  | error e => rw [hd] at hoverlooks; cases hoverlooks
  | ok d =>
    rw [hd] at hoverlooks
    obtain ⟨htrace, hgiven⟩ :
        (d.run bareHost "s" {} .empty ⟨true, []⟩).2 = (.empty, ⟨true, []⟩) ∧
          ((d.run bareHost "s" {} .empty ⟨true, []⟩).1 = .error .cancelled ↔
            d.overlooksCancellation bareHost {} = false) := run_started_cancelled rfl
    exact ⟨d, rfl, rfl, hgiven.2 (Option.some.inj hoverlooks), htrace⟩

/-- A document of plain text yields its text under a token that was cancelled before. -/
theorem plain_text_run_completes :
    ∃ d out, Document.compile "hello\n" = .ok d ∧
      d.run bareHost "s" {} .empty ⟨true, []⟩ = (.ok out, .empty, ⟨true, []⟩) ∧
      out.text = "hello\n" := by
  have htext : (Document.compile "hello\n").toOption.bind (fun d =>
      (d.run bareHost "s" {} .empty ⟨true, []⟩).1.toOption.map RunOutput.text) =
        some "hello\n" := by decide +kernel
  cases hd : Document.compile "hello\n" with
  | error e => rw [hd] at htext; cases htext
  | ok d =>
    rw [hd] at htext
    have htrace : (d.run bareHost "s" {} .empty ⟨true, []⟩).2 = (.empty, ⟨true, []⟩) :=
      run_leaves_no_trace rfl
    rcases hrun : d.run bareHost "s" {} .empty ⟨true, []⟩ with ⟨e | out, rest⟩
    · simp [Except.toOption, hrun] at htext
    · rw [hrun] at htrace
      simp only [Except.toOption, Option.bind_some, hrun, Option.map_some,
        Option.some.injEq] at htext
      exact ⟨d, out, rfl, hrun.trans (Prod.ext rfl htrace), htext⟩

end PromptScript
