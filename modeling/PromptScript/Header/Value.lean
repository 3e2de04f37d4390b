import PromptScript.Pipeline.Basic

/-!
# Header.Value

The typed values that a document's header holds.
-/

namespace PromptScript

inductive Value where
  | text (s : String)
  /-- An integer of 64 bits. -/
  | number (n : Int)
  /-- A calendar date, as written. -/
  | date (s : String)
  | flag (b : Bool)
  | list (items : List Value)
  /-- Named values, in ascending order of their names. -/
  | record (fields : List (String × Value))
  | action (a : Action)
  | caseMatch (m : CaseMatch)

namespace Value

def kindName : Value → String
  | .text _ => "string"
  | .number _ => "number"
  | .date _ => "date"
  | .flag _ => "boolean"
  | .list _ => "array"
  | .record _ => "object"
  | .action _ => "pattern"
  | .caseMatch _ => "case match"

/-- The pipeline that a value stands for: a text is a single prompt, and an action brings its verbs;
no other value can be run. -/
def verbs? : Value → Option (List Verb)
  | .text s => some [.prompt s]
  | .action a => some a.verbs
  | _ => none

end Value

end PromptScript
