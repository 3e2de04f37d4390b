import PromptScript.Registry
import PromptScript.Run.Basic

/-!
# Session

A session keeps scripts, the values of the host, the responses of agents and a cancellation token
from one run to the next.
-/

namespace PromptScript

structure Session where
  scripts : Registry := .empty
  context : Context := {}
  cache : ResponseCache := .empty
  cancelled : Bool := false

structure SessionRun where
  result : Except RunError RunOutput
  log : List Event

inductive SessionStep where
  | load (key : String) (script : LoadedScript)
  | unload (key : String)
  | set (name value : String)
  | remember (script response : String)
  | cancel
  | renewToken
  | run (key : String) (host : Host)

namespace Session

def runScript (s : Session) (host : Host) (script : LoadedScript) : SessionRun × Session :=
  match script.document.run host script.path s.context s.cache ⟨s.cancelled, []⟩ with
  | (result, cache, p) => (⟨result, p.log⟩, { s with cache := cache, cancelled := p.cancelled })

/-- Runs the script of a key; nothing happens if there is none. -/
def run (s : Session) (key : String) (host : Host) : Option SessionRun × Session :=
  match s.scripts.get? key with
  | none => (none, s)
  | some script =>
    match s.runScript host script with
    | (r, s) => (some r, s)

/-- The session after one step. -/
def step (s : Session) : SessionStep → Session
  | .load key script => { s with scripts := s.scripts.insert key script }
  | .unload key => { s with scripts := s.scripts.erase key }
  | .set name value => { s with context := s.context.set name value }
  | .remember script response => { s with cache := s.cache.insert script response }
  | .cancel => { s with cancelled := true }
  | .renewToken => { s with cancelled := false }
  | .run key host => (s.run key host).2

/-- The session after steps in order. -/
def steps (s : Session) (todo : List SessionStep) : Session := todo.foldl step s

end Session

end PromptScript
