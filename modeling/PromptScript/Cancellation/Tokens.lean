import PromptScript.Cancellation

/-!
# Cancellation.Tokens

Cancellation tokens and their clones. A token and all its clones are one family, and a family is
cancelled as a whole and for good. Work under a token is polled until it finishes; the token is
looked at before each poll, so work is given up in the first poll after its family was cancelled.
-/

namespace PromptScript

/-- What is done with tokens. They go by their numbers, in the order in which they came about. -/
inductive TokenAct where
  | create
  | clone (token : Nat)
  | cancel (token : Nat)
  | query (token : Nat)
  deriving DecidableEq, Repr

/-- One poll of a piece of work: what it does with tokens, and the result if it is then finished.
What others do before the next poll counts with it. -/
structure Poll (α : Type u) where
  acts : List TokenAct
  result : Option α
  deriving DecidableEq, Repr

/-- How the wait for a piece of work ends. -/
inductive Ending (α : Type u) where
  /-- With the result of the work, or without one. -/
  | returned (result : Option α)
  /-- Not at all: the work is never finished, and nobody cancels. -/
  | waits
  deriving DecidableEq, Repr

def Ending.result? {α : Type u} : Ending α → Option α
  | .returned result => result
  | .waits => none

/-- The polls of a piece of work under the token. -/
def Work.polls {α : Type u} (token : Nat) : Work α → List (Poll α)
  | .finishes a => [⟨[], some a⟩]
  | .cancelsAndFinishes a => [⟨[.cancel token], some a⟩]
  | .cancelsAndHangs => [⟨[.cancel token], none⟩]

/-- Tokens, numbered in the order in which they came about. What is done with a number that no token
has does nothing. -/
structure Tokens where
  /-- The family of each token. -/
  families : List Nat := []
  /-- The families that are cancelled. -/
  cancelled : List Nat := []
  deriving DecidableEq, Repr

namespace Tokens

/-- A token of a family of its own. -/
def fresh (ts : Tokens) : Tokens := { ts with families := ts.families ++ [ts.families.length] }

def clone (ts : Tokens) (token : Nat) : Tokens :=
  match ts.families[token]? with
  | some family => { ts with families := ts.families ++ [family] }
  | none => ts

def isCancelled (ts : Tokens) (token : Nat) : Bool :=
  match ts.families[token]? with
  | some family => ts.cancelled.contains family
  | none => false

def cancel (ts : Tokens) (token : Nat) : Tokens :=
  match ts.families[token]? with
  | some family =>
    if ts.cancelled.contains family then ts else { ts with cancelled := ts.cancelled ++ [family] }
  | none => ts

def act (ts : Tokens) : TokenAct → Tokens
  | .create => ts.fresh
  | .clone token => ts.clone token
  | .cancel token => ts.cancel token
  | .query _ => ts

def perform (ts : Tokens) (acts : List TokenAct) : Tokens := acts.foldl act ts

/-- Polls work under a token: how the wait for it ends, and the acts that the work has done by then.
After its last poll, work that is not finished never will be. -/
def poll {α : Type u} (ts : Tokens) (token : Nat) : List (Poll α) → Ending α × List TokenAct
  | [] => (if ts.isCancelled token then .returned none else .waits, [])
  | p :: rest =>
    if ts.isCancelled token then (.returned none, [])
    else
      match p.result with
      | some a => (.returned (some a), p.acts)
      | none =>
        let (ending, acts) := (ts.perform p.acts).poll token rest
        (ending, p.acts ++ acts)

/-- Runs work under a token; `none` if it comes to no result. -/
def run {α : Type u} (ts : Tokens) (token : Nat) (work : Work α) : Option α × Tokens :=
  let (ending, acts) := ts.poll token (work.polls token)
  (ending.result?, ts.perform acts)

end Tokens

end PromptScript
