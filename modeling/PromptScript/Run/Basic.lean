import PromptScript.Agent
import PromptScript.Command.Dispatch
import PromptScript.Document.Basic
import PromptScript.Pipeline.Engine
import PromptScript.Run.Body
import PromptScript.Run.Context
import PromptScript.Run.Plain

/-!
# Run.Basic

Running a compiled document. The variables are rendered in the order in which they are declared, then
the body is filled in and its commands are run, and then the text goes to the agent that the header
names. What fails on the way is shown as a diagnostic in its place; only cancellation stops a run.
The source is asked for its items when they are first needed, and that answer serves all variables.
-/

namespace PromptScript

inductive RunError where
  | cancelled
  deriving DecidableEq, Repr

def RunError.message : RunError → String
  | .cancelled => "run cancelled"

structure RunOutput where
  /-- The text of each variable, by canonical name. -/
  rendered : NameMap String
  text : String
  failures : List ItemFailure
  /-- The response of the agent, if the document names one. -/
  response : Option String

/-- Those outside whom a run works with. -/
structure Host where
  source : ItemSource
  agents : AgentRegistry := .empty

/-- The text of a variable, with the candidates that could not be handled for it. -/
structure Rendered where
  text : String := ""
  failures : List ItemFailure := []
  deriving DecidableEq, Repr

/-- What is kept from one variable to the next. -/
structure RunState where
  scene : Scene
  /-- The answer of the source, once it has been asked. -/
  listing : Option (Except SourceError (List String)) := none
  failures : List ItemFailure := []
  progress : Progress Event

/-- Bindings as text, in the order of their names. -/
def showBindings (bindings : NameMap String) : String :=
  joinTexts " " (bindings.entries.map fun b => b.1 ++ "=" ++ b.2)

/-- Handles a candidate by showing its bindings, provided that the source still has it. -/
def resolver (source : ItemSource) : Invoker Event where
  event i := .checked i.item
  invoke log i := (source.isEligible log i.item).map fun eligible =>
    if eligible then .ok (showBindings i.bindings) else .error (.unresolved i.item)

def Verb.filled (s : Scene) : Verb → Verb
  | .prompt message => .prompt (s.fill message)
  | v => v

/-- Runs an action over candidates, with the references in its messages filled in. -/
def runFilled (source : ItemSource) (s : Scene) (p : Progress Event) (action : Action)
    (candidates : List String) : Except RunError Rendered × Progress Event :=
  match runPipeline (resolver source) (action.mapVerbs (Verb.filled s)) candidates p with
  | (.ok o, p) => (.ok ⟨o.text, o.failures⟩, p)
  | (.error .cancelled, p) => (.error .cancelled, p)
  | (.error e, p) => (.ok { text := diagnostic e.message }, p)

/-- Asks the source for its items, or takes the answer that it gave before. -/
def listItems (source : ItemSource) (s : RunState) :
    Option (Except SourceError (List String)) × RunState :=
  match s.listing with
  | some answer => (some answer, s)
  | none =>
    match source.list s.progress with
    | (none, p) => (none, { s with progress := p })
    | (some answer, p) => (some answer, { s with listing := some answer, progress := p })

def runAction (source : ItemSource) (s : RunState) (action : Action) :
    Except RunError Rendered × RunState :=
  match listItems source s with
  | (none, s) => (.error .cancelled, s)
  | (some (.error e), s) => (.ok { text := diagnostic e.message }, s)
  | (some (.ok items), s) =>
    match selectCandidates action.trigger items with
    | .error e => (.ok { text := diagnostic e.message }, s)
    | .ok candidates =>
      let (rendered, p) := runFilled source s.scene s.progress action candidates
      (rendered, { s with progress := p })

/-- The action that only answers with a text. -/
def Action.answering (text : String) : Action := ⟨".*", [.prompt text], List.cons_ne_nil _ _⟩

/-- Renders the value of a variable. A case match is chosen by what its subject stands for now, and
renders to nothing if no arm has that key. -/
def renderValue (source : ItemSource) (s : RunState) : Value → Except RunError Rendered × RunState
  | .action a => runAction source s a
  | .caseMatch m =>
    match m.select (s.scene.fill m.subject) with
    | some a => runAction source s a
    | none => (.ok {}, s)
  | .text t =>
    let (rendered, p) := runFilled source s.scene s.progress (.answering t) []
    (rendered, { s with progress := p })
  | v => (.ok { text := v.plain }, s)

def RunState.keep (s : RunState) (name : String) (r : Rendered) : RunState :=
  { s with
    scene := { s.scene with rendered := s.scene.rendered.insert (canonicalName name) r.text }
    failures := s.failures ++ r.failures }

/-- Renders variables in order. -/
def renderVariables (source : ItemSource) (s : RunState) :
    List Declaration → Except RunError Unit × RunState
  | [] => (.ok (), s)
  | d :: rest =>
    match renderValue source s d.value with
    | (.error e, s) => (.error e, s)
    | (.ok r, s) => renderVariables source (s.keep d.name r) rest

section Bodies

variable [PatternLibrary]

/-- Fills in the parts of a body and runs its commands. Results are taken as they are. -/
def expandParts (source : ItemSource) (s : Scene) (p : Progress Event) :
    List BodyPart → Except RunError (List String) × Progress Event
  | [] => (.ok [], p)
  | .plain text :: rest =>
    match expandParts source s p rest with
    | (.error e, p) => (.error e, p)
    | (.ok texts, p) => (.ok (s.fill (String.ofList text) :: texts), p)
  | .command call :: rest =>
    match showCommand source p (String.ofList call) with
    | (result, p) =>
      if p.cancelled then (.error .cancelled, p)
      else
        match expandParts source s p rest with
        | (.error e, p) => (.error e, p)
        | (.ok texts, p) => (.ok (result :: texts), p)

def expandBody (source : ItemSource) (s : Scene) (p : Progress Event) (body : List Char) :
    Except RunError String × Progress Event :=
  match expandParts source s p (bodyParts body) with
  | (.error e, p) => (.error e, p)
  | (.ok texts, p) => (.ok (String.join texts), p)

end Bodies

/-- Sends a text to an agent. Only a full response is kept for the script. -/
def handOff (host : Host) (script agent text : String) (cache : ResponseCache)
    (p : Progress Event) : Except RunError String × ResponseCache × Progress Event :=
  match host.agents.get? agent with
  | none => (.ok (diagnostic (AgentError.unknown agent).message), cache, p)
  | some a =>
    match a.run p agent text with
    | (none, p) => (.error .cancelled, cache, p)
    | (some (.error e), p) => (.ok (diagnostic e.message), cache, p)
    | (some (.ok response), p) => (.ok response, cache.insert script response, p)

/-- Sends a text to the agent that a header names, if there is one. -/
def handOffTo? (host : Host) (script : String) (agent : Option String) (text : String)
    (cache : ResponseCache) (p : Progress Event) :
    Except RunError (Option String) × ResponseCache × Progress Event :=
  match agent with
  | none => (.ok none, cache, p)
  | some agent =>
    match handOff host script agent text cache p with
    | (.error e, cache, p) => (.error e, cache, p)
    | (.ok response, cache, p) => (.ok (some response), cache, p)

def Document.run (host : Host) (script : String) (d : Document) (context : Context)
    (cache : ResponseCache) (p : Progress Event) :
    Except RunError RunOutput × ResponseCache × Progress Event :=
  match renderVariables host.source { scene := ⟨context, .empty⟩, progress := p }
      d.header.declarations with
  | (.error e, s) => (.error e, cache, s.progress)
  | (.ok (), s) =>
    match expandBody host.source s.scene s.progress d.body with
    | (.error e, p) => (.error e, cache, p)
    | (.ok text, p) =>
      match handOffTo? host script d.header.agent text cache p with
      | (.error e, cache, p) => (.error e, cache, p)
      | (.ok response, cache, p) =>
        (.ok ⟨s.scene.rendered, text, s.failures, response⟩, cache, p)

end PromptScript
