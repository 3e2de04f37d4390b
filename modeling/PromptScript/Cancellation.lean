/-!
# Cancellation

Work that runs under a cancellation token. The work itself may be what cancels the token, and may
then still finish or hang. Work that finishes in the step in which it cancelled keeps its result; work
that hangs is given up.
-/

namespace PromptScript

/-- What becomes of a piece of work once it is started. -/
inductive Work (α : Type u) where
  | finishes (result : α)
  | cancelsAndFinishes (result : α)
  | cancelsAndHangs
  deriving DecidableEq, Repr

namespace Work

/-- The work with its result passed through `f`. -/
def map {α : Type u} {β : Type v} (f : α → β) : Work α → Work β
  | .finishes a => .finishes (f a)
  | .cancelsAndFinishes a => .cancelsAndFinishes (f a)
  | .cancelsAndHangs => .cancelsAndHangs

def result? {α : Type u} : Work α → Option α
  | .finishes a => some a
  | .cancelsAndFinishes a => some a
  | .cancelsAndHangs => none

def cancels {α : Type u} : Work α → Bool
  | .finishes _ => false
  | .cancelsAndFinishes _ => true
  | .cancelsAndHangs => true

end Work

/-- How far things have come: whether the token is cancelled, and what was started so far. -/
structure Progress (ε : Type u) where
  cancelled : Bool := false
  log : List ε := []
  deriving DecidableEq, Repr

namespace Progress

/-- Starts work unless the token is cancelled. The events go to the log when the work starts; what
the work does may depend on the log before them. -/
def attempt {ε : Type u} {α : Type v} (p : Progress ε) (events : List ε) (work : List ε → Work α) :
    Option α × Progress ε :=
  if p.cancelled then (none, p)
  else
    let w := work p.log
    (w.result?, ⟨w.cancels, p.log ++ events⟩)

/-- Under a cancelled token nothing starts. -/
theorem attempt_of_cancelled {ε : Type u} {α : Type v} {p : Progress ε} (h : p.cancelled = true)
    (events : List ε) (work : List ε → Work α) : p.attempt events work = (none, p) := by
  rw [attempt, if_pos h]

/-- Work without a result leaves the token cancelled. -/
theorem cancelled_of_attempt_eq_none {ε : Type u} {α : Type v} {p q : Progress ε}
    {events : List ε} {work : List ε → Work α} (h : p.attempt events work = (none, q)) :
    q.cancelled = true := by
  rw [attempt] at h
  split at h
  · rename_i hp
    rw [← (Prod.mk.inj h).2]
    exact hp
  · obtain ⟨hr, hq⟩ := Prod.mk.inj h
    rw [← hq]
    cases hw : work p.log with
    | finishes a => simp [hw, Work.result?] at hr
    | cancelsAndFinishes a => rfl
    | cancelsAndHangs => rfl

end Progress

end PromptScript
