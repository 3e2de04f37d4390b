import PromptScript.Command.Call
import PromptScript.Diagnostic
import PromptScript.Item.Source

/-!
# Command.Dispatch

Commands are calls of built-in functions. The outcome of a command is decided in a fixed order: the
call, the function, its argument, the pattern, cancellation, the source. Patterns are those of some
library.
-/

namespace PromptScript

inductive FileFunction where
  /-- Lists the items that a pattern matches as a whole. -/
  | regex
  deriving DecidableEq, Repr

namespace FileFunction

def name : FileFunction → String
  | .regex => "regex"

def ofName? (name : String) : Option FileFunction :=
  if name = FileFunction.regex.name then some .regex else none

end FileFunction

inductive CommandError where
  | malformed (text : String)
  | unknownFunction (name : String)
  | missingArgument (function : FileFunction) (position : Nat)
  | invalidPattern (pattern : String) (fault : PatternFault)
  | source (e : SourceError)
  | cancelled
  deriving DecidableEq, Repr

def CommandError.message : CommandError → String
  | .malformed text =>
    "Malformed command: '" ++ text ++ "', expected a call like regex(\".*\\.kt\")"
  | .unknownFunction name => "Unknown function: " ++ name
  | .missingArgument function position =>
    "Missing argument " ++ toString position ++ " for " ++ function.name
  | .invalidPattern pattern fault => "Invalid pattern '" ++ pattern ++ "': " ++ fault.message
  | .source e => e.message
  | .cancelled => "Command cancelled"

/-- The text between two equal quotation marks, if the argument is of that form. -/
def between? (quote : Char) : List Char → Option (List Char)
  | [] => none
  | c :: rest => if c = quote ∧ rest.getLast? = some quote then some rest.dropLast else none

/-- An argument without one pair of quotation marks around it. -/
def unquoted (argument : String) : String :=
  match (between? '"' argument.toList).or (between? '\'' argument.toList) with
  | some inner => String.ofList inner
  | none => argument

/-- The pattern that matches a path as a whole. It is written around the given text, so that a text
with a parenthesis too many closes the group early. -/
def wholePath (pattern : String) : String := "^(?:" ++ pattern ++ ")$"

def pathSeparator : String := ", "

section Commands

variable [PatternLibrary]

def findPaths (source : ItemSource) (p : Progress Event) (pattern : String) :
    Except CommandError String × Progress Event :=
  match PatternLibrary.compile (wholePath pattern) with
  | .error fault => (.error (.invalidPattern pattern fault), p)
  | .ok found =>
    match source.list p with
    | (none, p) => (.error .cancelled, p)
    | (some (.error e), p) => (.error (.source e), p)
    | (some (.ok items), p) => (.ok (joinTexts pathSeparator (items.filter found)), p)

def Call.run (source : ItemSource) (p : Progress Event) (c : Call) :
    Except CommandError String × Progress Event :=
  match FileFunction.ofName? c.function with
  | none => (.error (.unknownFunction c.function), p)
  | some .regex =>
    match c.arguments with
    | [] => (.error (.missingArgument .regex 0), p)
    | argument :: _ => findPaths source p (unquoted argument)

def runCommand (source : ItemSource) (p : Progress Event) (text : String) :
    Except CommandError String × Progress Event :=
  match Call.find? text with
  | none => (.error (.malformed text), p)
  | some c => c.run source p

/-- Runs a command; an error is shown as a diagnostic. -/
def showCommand (source : ItemSource) (p : Progress Event) (text : String) :
    String × Progress Event :=
  match runCommand source p text with
  | (.ok result, p) => (result, p)
  | (.error e, p) => (diagnostic e.message, p)

end Commands

end PromptScript
