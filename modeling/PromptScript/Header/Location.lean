import PromptScript.Text.Letter

/-!
# Header.Location

The places of a user interface in which a document can be offered as an action.
-/

namespace PromptScript

/-- Where a document is offered as an action. -/
inductive Location where
  | contextMenu
  | intentionMenu
  | terminalMenu
  | commitMenu
  | inputBox
  | runPanel
  deriving DecidableEq, Repr, Inhabited

namespace Location

def all : List Location :=
  [.contextMenu, .intentionMenu, .terminalMenu, .commitMenu, .inputBox, .runPanel]

def name : Location → String
  | .contextMenu => "ContextMenu"
  | .intentionMenu => "IntentionMenu"
  | .terminalMenu => "TerminalMenu"
  | .commitMenu => "CommitMenu"
  | .inputBox => "InputBox"
  | .runPanel => "RunPanel"

/-- Where a document is offered that does not say. -/
def standard : Location := .runPanel

/-- The location of a name, with ASCII letters in either case. -/
def ofName? (text : String) : Option Location :=
  all.find? fun l => l.name.toList.map asciiLower == text.toList.map asciiLower

def unknownMessage (text : String) : String := "unknown action location '" ++ text ++ "'"

end Location

end PromptScript
