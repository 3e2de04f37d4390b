import PromptScript.Cancellation

/-!
# Item.Source

Where items come from. A source lists its items and tells whether a single path is one of them. Its
answers may depend on what happened before, and asking it may cancel the token.
-/

namespace PromptScript

/-- What a run does to the world outside. -/
inductive Event where
  /-- The source is asked for its items. -/
  | enumerated
  /-- The source is asked about one path. -/
  | checked (path : String)
  /-- An agent is started on a prompt. -/
  | started (agent prompt : String)
  /-- A chunk of a response is printed. -/
  | printed (chunk : String)
  deriving DecidableEq, Repr

namespace Event

def checkedPath? : Event → Option String
  | .checked path => some path
  | _ => none

def printedChunk? : Event → Option String
  | .printed chunk => some chunk
  | _ => none

end Event

inductive SourceError where
  | unreadable (path message : String)
  | unavailable (message : String)
  deriving DecidableEq, Repr

def SourceError.message : SourceError → String
  | .unreadable path message => "cannot read '" ++ path ++ "': " ++ message
  | .unavailable message => "item source unavailable: " ++ message

structure ItemSource where
  /-- Lists the items, after what the log shows. -/
  enumerate : List Event → Work (Except SourceError (List String))
  /-- Tells whether a path is an item, after what the log shows. -/
  isEligible : List Event → String → Work Bool

namespace ItemSource

def ofList (items : List String) : ItemSource where
  enumerate _ := .finishes (.ok items)
  isEligible _ path := .finishes (items.contains path)

/-- Asks for the items; `none` if that was cancelled. -/
def list (source : ItemSource) (p : Progress Event) :
    Option (Except SourceError (List String)) × Progress Event :=
  p.attempt [.enumerated] source.enumerate

end ItemSource

end PromptScript
