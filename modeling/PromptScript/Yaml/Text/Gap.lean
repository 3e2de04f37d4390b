import PromptScript.Yaml.Mark

/-!
# Yaml.Text.Gap

Blanks and line breaks inside flowing text. Blanks within a line are kept. A single line break is
read as a space, and of several the first is dropped.
-/

namespace PromptScript.Yaml

/-- What stands between two words of a flowing text. The characters of blanks and the breaks after
the first are in reverse order. -/
inductive Gap where
  | none
  | blanks (read : List Char)
  /-- A first break, empty if it was escaped, and those after it. -/
  | breaks (first more : List Char)
  deriving DecidableEq, Repr

namespace Gap

def isBroken : Gap → Bool
  | .breaks .. => true
  | _ => false

/-- The gap after one more space or tab. Those at the start of a line do not count. -/
def addBlank (g : Gap) (c : Char) : Gap :=
  match g with
  | .none => .blanks [c]
  | .blanks read => .blanks (c :: read)
  | .breaks first more => .breaks first more

/-- The gap after one more line break. Blanks before it do not count. -/
def addBreak (g : Gap) (c : Char) : Gap :=
  match g with
  | .breaks first more => .breaks first (breakText c ++ more)
  | _ => .breaks (breakText c) []

def folded : Gap → List Char
  | .none => []
  | .blanks read => read
  | .breaks ['\n'] [] => [' ']
  | .breaks ['\n'] more => more
  | .breaks first more => more ++ first

end Gap

end PromptScript.Yaml
