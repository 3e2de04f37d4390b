import PromptScript.Run.Basic

/-!
# Proofs.Lookups

The run of a document as a program that can do one thing besides computing: look a reference up.
`Through.run` is that program over any monad, with the look-up as its parameter; over `Traced` each
look-up leaves its trace. Forgetting the trace gives the run (`value_run`).
-/

namespace PromptScript

/-- A reference that is looked up, and the scene in which it is. -/
structure ReferenceLookup where
  scene : Scene
  reference : Reference

namespace ReferenceLookup

/-- The text that stands in place of the reference; `none` leaves it as written. -/
def answer (l : ReferenceLookup) : Option String := l.scene.find? l.reference.name

end ReferenceLookup

/-- A result with the look-ups that led to it. -/
structure Traced (α : Type) where
  value : α
  lookups : List ReferenceLookup := []

namespace Traced

instance : Monad Traced where
  pure a := { value := a }
  bind x f := { value := (f x.value).value, lookups := x.lookups ++ (f x.value).lookups }

@[simp] theorem value_pure {α : Type} (a : α) : (pure a : Traced α).value = a := rfl

@[simp] theorem lookups_pure {α : Type} (a : α) : (pure a : Traced α).lookups = [] := rfl

@[simp] theorem value_bind {α β : Type} (x : Traced α) (f : α → Traced β) :
    (x >>= f).value = (f x.value).value := rfl

@[simp] theorem lookups_bind {α β : Type} (x : Traced α) (f : α → Traced β) :
    (x >>= f).lookups = x.lookups ++ (f x.value).lookups := rfl

/-- Looks a reference up and leaves the trace of it. -/
def look (s : Scene) (r : Reference) : Traced (Option String) :=
  { value := s.find? r.name, lookups := [⟨s, r⟩] }

@[simp] theorem value_look (s : Scene) (r : Reference) : (look s r).value = s.find? r.name := rfl

@[simp] theorem lookups_look (s : Scene) (r : Reference) : (look s r).lookups = [⟨s, r⟩] := rfl

end Traced

namespace Through

section Program

variable {m : Type → Type} [Monad m] (look : Scene → Reference → m (Option String))

def fillPieces (s : Scene) : List Piece → m (List Char)
  | [] => pure []
  | .plain c :: rest => do
    let filled ← fillPieces s rest
    pure (c :: filled)
  | .reference r :: rest => do
    let found ← look s r
    let filled ← fillPieces s rest
    match found with
    | some value => pure (value.toList ++ filled)
    | none => pure (r.written ++ filled)

def fill (s : Scene) (text : String) : m String := do
  let filled ← fillPieces look s (pieces text.toList)
  pure (String.ofList filled)

def fillVerb (s : Scene) : Verb → m Verb
  | .prompt message => do
    let filled ← fill look s message
    pure (.prompt filled)
  | v => pure v

def fillVerbs (s : Scene) : List Verb → m (List Verb)
  | [] => pure []
  | v :: rest => do
    let v ← fillVerb look s v
    let rest ← fillVerbs s rest
    pure (v :: rest)

def runFilled (source : ItemSource) (s : Scene) (p : Progress Event) (verbs : List Verb)
    (candidates : List String) : m (Except RunError Rendered × Progress Event) := do
  let verbs ← fillVerbs look s verbs
  match runVerbs (resolver source) { candidates := candidates } p verbs with
  | (.ok o, p) => pure (.ok ⟨o.text, o.failures⟩, p)
  | (.error .cancelled, p) => pure (.error .cancelled, p)
  | (.error e, p) => pure (.ok { text := diagnostic e.message }, p)

def runAction (source : ItemSource) (s : RunState) (action : Action) :
    m (Except RunError Rendered × RunState) :=
  match listItems source s with
  | (none, s) => pure (.error .cancelled, s)
  | (some (.error e), s) => pure (.ok { text := diagnostic e.message }, s)
  | (some (.ok items), s) =>
    match selectCandidates action.trigger items with
    | .error e => pure (.ok { text := diagnostic e.message }, s)
    | .ok candidates => do
      let (rendered, p) ← runFilled look source s.scene s.progress action.verbs candidates
      pure (rendered, { s with progress := p })

def renderValue (source : ItemSource) (s : RunState) :
    Value → m (Except RunError Rendered × RunState)
  | .action a => runAction look source s a
  | .caseMatch c => do
    let observed ← fill look s.scene c.subject
    match c.select observed with
    | some a => runAction look source s a
    | none => pure (.ok {}, s)
  | .text t => do
    let (rendered, p) ← runFilled look source s.scene s.progress [.prompt t] []
    pure (rendered, { s with progress := p })
  | v => pure (.ok { text := v.plain }, s)

def renderVariables (source : ItemSource) (s : RunState) :
    List Declaration → m (Except RunError Unit × RunState)
  | [] => pure (.ok (), s)
  | d :: rest => do
    match ← renderValue look source s d.value with
    | (.error e, s) => pure (.error e, s)
    | (.ok r, s) => renderVariables source (s.keep d.name r) rest

def expandParts (source : ItemSource) (s : Scene) (p : Progress Event) :
    List BodyPart → m (Except RunError (List String) × Progress Event)
  | [] => pure (.ok [], p)
  | .plain text :: rest => do
    let filled ← fill look s (String.ofList text)
    match ← expandParts source s p rest with
    | (.error e, p) => pure (.error e, p)
    | (.ok texts, p) => pure (.ok (filled :: texts), p)
  | .command call :: rest =>
    match showCommand source p (String.ofList call) with
    | (result, p) =>
      if p.cancelled then pure (.error .cancelled, p)
      else do
        match ← expandParts source s p rest with
        | (.error e, p) => pure (.error e, p)
        | (.ok texts, p) => pure (.ok (result :: texts), p)

def expandBody (source : ItemSource) (s : Scene) (p : Progress Event) (body : List Char) :
    m (Except RunError String × Progress Event) := do
  match ← expandParts look source s p (bodyParts body) with
  | (.error e, p) => pure (.error e, p)
  | (.ok texts, p) => pure (.ok (String.join texts), p)

/-- The run of a document, with `look` for every look-up of a reference. -/
def run (host : Host) (script : String) (d : Document) (context : Context) (cache : ResponseCache)
    (p : Progress Event) : m (Except RunError RunOutput × ResponseCache × Progress Event) := do
  match ← renderVariables look host.source { scene := ⟨context, .empty⟩, progress := p }
      d.header.declarations with
  | (.error e, s) => pure (.error e, cache, s.progress)
  | (.ok (), s) =>
    match ← expandBody look host.source s.scene s.progress d.body with
    | (.error e, p) => pure (.error e, cache, p)
    | (.ok text, p) =>
      match handOffTo? host script d.header.agent text cache p with
      | (.error e, cache, p) => pure (.error e, cache, p)
      | (.ok response, cache, p) =>
        pure (.ok ⟨s.scene.rendered, text, s.failures, response⟩, cache, p)

end Program

/-! ## Forgetting the trace -/

theorem value_fillPieces (s : Scene) (ps : List Piece) :
    (fillPieces Traced.look s ps).value = ps.flatMap (Piece.resolved s.find?) := by
  induction ps with
  | nil => rfl
  | cons p rest ih =>
    cases p with
    | plain c => simp [fillPieces, ih, Piece.resolved]
    | reference r =>
      cases h : s.find? r.name <;> simp [fillPieces, ih, Piece.resolved, h]

@[simp] theorem value_fill (s : Scene) (text : String) :
    (fill Traced.look s text).value = s.fill text := by
  simp [fill, value_fillPieces, Scene.fill, interpolate]

@[simp] theorem value_fillVerbs (s : Scene) (verbs : List Verb) :
    (fillVerbs Traced.look s verbs).value = verbs.map (Verb.filled s) := by
  induction verbs with
  | nil => rfl
  | cons v rest ih => cases v <;> simp [fillVerbs, fillVerb, ih, Verb.filled]

@[simp] theorem value_runFilled (source : ItemSource) (s : Scene) (p : Progress Event)
    (action : Action) (candidates : List String) :
    (runFilled Traced.look source s p action.verbs candidates).value =
      PromptScript.runFilled source s p action candidates := by
  simp only [runFilled, Traced.value_bind, value_fillVerbs, PromptScript.runFilled, runPipeline,
    Action.mapVerbs]
  split <;> simp_all

@[simp] theorem value_runAction (source : ItemSource) (s : RunState) (action : Action) :
    (runAction Traced.look source s action).value = PromptScript.runAction source s action := by
  rw [runAction, PromptScript.runAction]
  rcases listItems source s with ⟨_ | (e | items), s⟩
  · rfl
  · rfl
  · cases h : selectCandidates action.trigger items <;> simp [h]

@[simp] theorem value_renderValue (source : ItemSource) (s : RunState) (v : Value) :
    (renderValue Traced.look source s v).value = PromptScript.renderValue source s v := by
  cases v with
  | text t =>
    have h := value_runFilled source s.scene s.progress (.answering t) []
    simp only [Action.answering] at h
    simp [renderValue, PromptScript.renderValue, Action.answering, h]
  | caseMatch c =>
    simp only [renderValue, PromptScript.renderValue, Traced.value_bind, value_fill]
    cases c.select (s.scene.fill c.subject) <;> simp
  | action a => simp [renderValue, PromptScript.renderValue]
  | number n => rfl
  | date t => rfl
  | flag b => rfl
  | list items => rfl
  | record fields => rfl

@[simp] theorem value_renderVariables (source : ItemSource) (s : RunState)
    (ds : List Declaration) :
    (renderVariables Traced.look source s ds).value =
      PromptScript.renderVariables source s ds := by
  induction ds generalizing s with
  | nil => rfl
  | cons d rest ih =>
    simp only [renderVariables, PromptScript.renderVariables, Traced.value_bind,
      value_renderValue]
    rcases PromptScript.renderValue source s d.value with ⟨e | r, s⟩
    · rfl
    · exact ih (s.keep d.name r)

@[simp] theorem value_expandParts (source : ItemSource) (s : Scene) (p : Progress Event)
    (parts : List BodyPart) :
    (expandParts Traced.look source s p parts).value =
      PromptScript.expandParts source s p parts := by
  induction parts generalizing p with
  | nil => rfl
  | cons part rest ih =>
    cases part with
    | plain text =>
      simp only [expandParts, PromptScript.expandParts, Traced.value_bind, value_fill, ih]
      rcases PromptScript.expandParts source s p rest with ⟨e | texts, p⟩ <;> rfl
    | command call =>
      simp only [expandParts, PromptScript.expandParts]
      rcases showCommand source p (String.ofList call) with ⟨result, p⟩
      cases p.cancelled with
      | true => rfl
      | false =>
        simp only [Bool.false_eq_true, if_false, Traced.value_bind, ih]
        rcases PromptScript.expandParts source s p rest with ⟨e | texts, p⟩ <;> rfl

@[simp] theorem value_expandBody (source : ItemSource) (s : Scene) (p : Progress Event)
    (body : List Char) :
    (expandBody Traced.look source s p body).value =
      PromptScript.expandBody source s p body := by
  simp only [expandBody, PromptScript.expandBody, Traced.value_bind, value_expandParts]
  rcases PromptScript.expandParts source s p (bodyParts body) with ⟨e | texts, p⟩ <;> rfl

/-- Forgetting the trace of look-ups gives the run. -/
theorem value_run (host : Host) (script : String) (d : Document) (context : Context)
    (cache : ResponseCache) (p : Progress Event) :
    (run Traced.look host script d context cache p).value = d.run host script context cache p := by
  simp only [run, Document.run, Traced.value_bind, value_renderVariables]
  rcases PromptScript.renderVariables host.source { scene := ⟨context, .empty⟩, progress := p }
    d.header.declarations with ⟨e | u, s⟩
  · rfl
  · simp only [Traced.value_bind, value_expandBody]
    rcases PromptScript.expandBody host.source s.scene s.progress d.body with ⟨e | text, p⟩
    · rfl
    · dsimp only
      rcases handOffTo? host script d.header.agent text cache p with ⟨e | response, cache, p⟩ <;>
        rfl

end Through

end PromptScript
