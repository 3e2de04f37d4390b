/-!
# AtLine

Faults with the line of the document that they concern.
-/

namespace PromptScript

/-- A fault on a line, counted from 1; line 0 stands for no line. -/
structure AtLine (φ : Type u) where
  line : Nat
  fault : φ
  deriving DecidableEq, Repr

namespace AtLine

def map {φ : Type u} {ψ : Type v} (f : φ → ψ) (e : AtLine φ) : AtLine ψ := ⟨e.line, f e.fault⟩

end AtLine

end PromptScript
