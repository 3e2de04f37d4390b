import PromptScript.Header.Value

/-!
# Run.Plain

The texts of values that are shown as they are, without being run.
-/

namespace PromptScript

def valueSeparator : String := ", "

mutual

def Value.plain : Value → String
  | .text s => s
  | .date s => s
  | .number n => toString n
  | .flag b => toString b
  | .list items => joinTexts valueSeparator (plainItems items)
  | .record fields => joinTexts valueSeparator (plainFields fields)
  | .action a => joinTexts " | " (a.verbs.map Verb.render)
  | .caseMatch m => "case " ++ quoted m.subject

def plainItems : List Value → List String
  | [] => []
  | v :: rest => v.plain :: plainItems rest

def plainFields : List (String × Value) → List String
  | [] => []
  | (k, v) :: rest => (k ++ ": " ++ v.plain) :: plainFields rest

end

end PromptScript
