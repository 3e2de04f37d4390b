import PromptScript.Cancellation

/-!
# Proofs.Progress

What one attempt does to the progress: it gives a result only if the token was not cancelled before
and the work came to one, and it adds its events to the log, or nothing. Under a cancelled token it
does nothing at all, so a token that is not cancelled at the end never was.

* `Reaches works p q`: `q` is reached from `p` by works that are started one after the other, each
  under a token that is not cancelled.
* `Grows p q property`: what is left of that for the log alone.
-/

namespace PromptScript

namespace Progress

variable {ε : Type u} {α : Type v} {p q r : Progress ε} {events : List ε} {work : List ε → Work α}

theorem attempt_eq_some {a : α} (h : p.attempt events work = (some a, q)) :
    p.cancelled = false ∧ (work p.log).result? = some a ∧
      q = ⟨(work p.log).cancels, p.log ++ events⟩ := by
  rw [attempt] at h
  split at h
  · cases h
  · rename_i hp
    obtain ⟨hresult, hq⟩ := Prod.mk.inj h
    exact ⟨Bool.eq_false_iff.2 hp, hresult, hq.symm⟩

/-- The log grows by events of which each has the property, and not at all under a cancelled
token. -/
def Grows (p q : Progress ε) (property : ε → Prop) : Prop :=
  ∃ added, q.log = p.log ++ added ∧ (∀ e ∈ added, property e) ∧ (p.cancelled = true → q = p)

namespace Grows

variable {property property' : ε → Prop}

theorem refl (p : Progress ε) : p.Grows p property :=
  ⟨[], (List.append_nil _).symm, fun _ h => absurd h List.not_mem_nil, fun _ => rfl⟩

theorem trans (h₁ : p.Grows q property) (h₂ : q.Grows r property) : p.Grows r property := by
  obtain ⟨a, ha, hpa, hpq⟩ := h₁
  obtain ⟨b, hb, hpb, hqr⟩ := h₂
  refine ⟨a ++ b, by rw [hb, ha, List.append_assoc], ?_, ?_⟩
  · intro e he
    rcases List.mem_append.1 he with he | he
    · exact hpa e he
    · exact hpb e he
  · intro hp
    have hq := hpq hp
    rw [hqr (by rw [hq]; exact hp), hq]

theorem mono (h : p.Grows q property) (hmono : ∀ e, property e → property' e) :
    p.Grows q property' := by
  obtain ⟨added, hadded, hproperty, hstill⟩ := h
  exact ⟨added, hadded, fun e he => hmono e (hproperty e he), hstill⟩

/-- Nothing takes a cancellation back. -/
theorem uncancelled (h : p.Grows q property) (hq : q.cancelled = false) : p.cancelled = false := by
  obtain ⟨_, _, _, hstill⟩ := h
  cases hp : p.cancelled with
  | false => rfl
  | true =>
    rw [hstill hp, hp] at hq
    exact hq

end Grows

/-- What may be started: after which log, with which events, and whether it cancels the token. -/
abbrev Works (ε : Type u) := List ε → List ε → Bool → Prop

/-- Works are started one after the other, each under a token that is not cancelled. -/
inductive Reaches (works : Works ε) : Progress ε → Progress ε → Prop where
  | refl {p : Progress ε} : Reaches works p p
  | start {log events : List ε} {cancels : Bool} {q : Progress ε} : works log events cancels →
      Reaches works ⟨cancels, log ++ events⟩ q → Reaches works ⟨false, log⟩ q

namespace Reaches

variable {works works' : Works ε}

theorem trans (h₁ : Reaches works p q) (h₂ : Reaches works q r) : Reaches works p r := by
  induction h₁ with
  | refl => exact h₂
  | start hwork _ ih => exact .start hwork (ih h₂)

theorem mono (h : Reaches works p q)
    (hmono : ∀ log events cancels, works log events cancels → works' log events cancels) :
    Reaches works' p q := by
  induction h with
  | refl => exact .refl
  | start hwork _ ih => exact .start (hmono _ _ _ hwork) ih

theorem eq_of_cancelled (h : Reaches works p q) (hp : p.cancelled = true) : q = p := by
  cases h with
  | refl => rfl
  | start => cases hp

theorem grows {property : ε → Prop} (h : Reaches works p q)
    (hworks : ∀ log events cancels, works log events cancels → ∀ e ∈ events, property e) :
    p.Grows q property := by
  induction h with
  | refl => exact .refl _
  | @start log events cancels q hwork _ ih =>
    have hfirst : Grows ⟨false, log⟩ ⟨cancels, log ++ events⟩ property :=
      ⟨events, rfl, hworks _ _ _ hwork, fun hfalse => absurd hfalse Bool.false_ne_true⟩
    exact hfirst.trans ih

end Reaches

theorem reaches_attempt {result : Option α} {works : Works ε}
    (h : p.attempt events work = (result, q)) (hwork : works p.log events (work p.log).cancels) :
    Reaches works p q := by
  rw [attempt] at h
  split at h
  · cases h; exact .refl
  · rename_i hp
    cases h
    obtain ⟨cancelled, log⟩ := p
    rw [Bool.not_eq_true] at hp
    cases hp
    exact .start hwork .refl

end Progress

end PromptScript
