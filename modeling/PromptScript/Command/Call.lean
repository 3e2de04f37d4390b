import PromptScript.Pattern.Library
import PromptScript.Text.Blank
import PromptScript.Text.Fields

/-!
# Command.Call

A call is a word with arguments in parentheses. The arguments are separated by commas, also by
those inside quotes, and end at the first closing parenthesis. Which characters words are made of is
left to the library of patterns.
-/

namespace PromptScript

/-- A function name with arguments, each without blanks around it. -/
structure Call where
  function : String
  arguments : List String
  deriving DecidableEq, Repr

namespace Call

/-- The characters before the first closing parenthesis, `none` if there is none. -/
def untilClose? (cs : List Char) : Option (List Char) :=
  match cs.dropWhile (· ≠ ')') with
  | [] => none
  | _ :: _ => some (cs.takeWhile (· ≠ ')'))

/-- The arguments between two parentheses; blank text holds none. -/
def argumentsOf (raw : List Char) : List String :=
  if trim raw = [] then [] else (fields ',' raw).map fun a => String.ofList (trim a)

variable [PatternLibrary]

/-- The first call in the text, after the run of word characters `word`. -/
def findAfter? (word : List Char) : List Char → Option Call
  | [] => none
  | c :: rest =>
    if PatternLibrary.isWord c then findAfter? (word ++ [c]) rest
    else if c = '(' ∧ word ≠ [] then
      (untilClose? rest).map fun raw => ⟨String.ofList word, argumentsOf raw⟩
    else findAfter? [] rest

/-- The first call in the text. If the first one is not closed, no later one is. -/
def find? (text : String) : Option Call := findAfter? [] text.toList

end Call

end PromptScript
