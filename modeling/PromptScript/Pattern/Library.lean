import PromptScript.Pattern.Search

/-!
# Pattern.Library

What commands ask of a library of patterns. They are defined for any library; a program runs with
the one of `Pattern`, unless it is given another.
-/

namespace PromptScript

class PatternLibrary where
  /-- Compiles a pattern to a test for the texts that it is found in. -/
  compile : String → Except PatternFault (String → Bool)
  /-- Whether a character belongs to a word. -/
  isWord : Char → Bool
  isWord_open : isWord '(' = false

namespace PatternLibrary

instance : PatternLibrary where
  compile text := (Pattern.read text).map Pattern.found
  isWord := isWordChar
  isWord_open := by decide

/-- What compiles here is what can be read. -/
theorem compile_eq_ok_iff {text : String} {found : String → Bool} :
    compile text = .ok found ↔ ∃ p, Pattern.read text = .ok p ∧ p.found = found := by
  rw [show compile text = (Pattern.read text).map Pattern.found from rfl]
  cases Pattern.read text <;> simp [Except.map]

theorem isOk_compile (text : String) : (compile text).isOk = (Pattern.read text).isOk := by
  rw [show compile text = (Pattern.read text).map Pattern.found from rfl]
  cases Pattern.read text <;> rfl

end PatternLibrary

end PromptScript
