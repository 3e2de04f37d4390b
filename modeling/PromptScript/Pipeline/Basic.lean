import PromptScript.NameMap
import PromptScript.Text.Fields
import PromptScript.Text.Quoted

/-!
# Pipeline.Basic

Pipelines as a header writes them: an action is a trigger pattern with one or more verbs, and a case
match chooses an action by an observed text.
-/

namespace PromptScript

inductive Verb where
  /-- Answers with a message. -/
  | prompt (message : String)
  /-- Keeps the candidates that one of the patterns is found in. -/
  | grep (patterns : List String)
  /-- Puts the candidates in order. -/
  | sort (arguments : List String)
  /-- Handles each candidate on its own, with its facets bound to variables. -/
  | xargs (names : List String)
  deriving DecidableEq, Repr

namespace Verb

def word : Verb → String
  | .prompt _ => "prompt"
  | .grep _ => "grep"
  | .sort _ => "sort"
  | .xargs _ => "xargs"

def arguments : Verb → List String
  | .prompt message => [message]
  | .grep patterns => patterns
  | .sort arguments => arguments
  | .xargs names => names

/-- A verb as a call: its word, and its arguments in quotes if it has any. -/
def render (v : Verb) : String :=
  match v.arguments with
  | [] => v.word
  | arguments => v.word ++ "(" ++ joinTexts ", " (arguments.map quoted) ++ ")"

def message? : Verb → Option String
  | .prompt message => some message
  | _ => none

end Verb

/-- A trigger pattern with the verbs to run on what it selects; there is at least one. -/
structure Action where
  trigger : String
  verbs : List Verb
  verbs_ne_nil : verbs ≠ []
  deriving DecidableEq, Repr

namespace Action

/-- The action of the given verbs, `none` if there are none. -/
def ofVerbs? (trigger : String) (verbs : List Verb) : Option Action :=
  if h : verbs ≠ [] then some ⟨trigger, verbs, h⟩ else none

/-- The action with every verb passed through `f`. -/
def mapVerbs (f : Verb → Verb) (a : Action) : Action :=
  ⟨a.trigger, a.verbs.map f, fun h => a.verbs_ne_nil (List.map_eq_nil_iff.1 h)⟩

def messages (a : Action) : List String := a.verbs.filterMap Verb.message?

end Action

/-- A choice between actions by the text that `subject` stands for. -/
structure CaseMatch where
  subject : String
  arms : NameMap Action

/-- The action for an observed text; `none` if no arm has that key. -/
def CaseMatch.select (m : CaseMatch) (observed : String) : Option Action := m.arms.get? observed

end PromptScript
