import PromptScript.CommandLine.Parameter
import PromptScript.Header.Location
import PromptScript.Text.Blank

/-!
# CommandLine.Usage

Why arguments are refused, with the wording of it, and the checks of single values.
-/

namespace PromptScript

inductive UsageError where
  | nothingGiven
  | commandMissing
  | argumentMissing
  | unknownCommand (word : String)
  | unexpected (argument : String)
  | unexpectedValue (value : String) (p : Parameter)
  | valueMissing (p : Parameter)
  | repeated (p : Parameter)
  | badValue (value : String) (p : Parameter) (reason : Option String)
  deriving DecidableEq, Repr

def programName : String := "shire"

def programTitle : String := "Shire script toolchain"

/-- The wording of an error. Without any arguments the program is introduced instead. -/
def UsageError.message : UsageError → String
  | .nothingGiven => programTitle
  | .commandMissing =>
    "error: '" ++ programName ++ "' requires a subcommand but one was not provided"
  | .argumentMissing => "error: the following required arguments were not provided:"
  | .unknownCommand word => "error: unrecognized subcommand '" ++ word ++ "'"
  | .unexpected argument => "error: unexpected argument '" ++ argument ++ "' found"
  | .unexpectedValue value p =>
    "error: unexpected value '" ++ value ++ "' for '" ++ p.shown ++ "' found; no more were expected"
  | .valueMissing p => "error: a value is required for '" ++ p.shown ++ "' but none was supplied"
  | .repeated p => "error: the argument '" ++ p.shown ++ "' cannot be used multiple times"
  | .badValue value p reason =>
    "error: invalid value '" ++ value ++ "' for '" ++ p.shown ++ "'" ++
      match reason with
      | some r => ": " ++ r
      | none => ""

/-- What is asked for, unless it is a command. -/
inductive Interruption where
  | help
  | version
  | refused (e : UsageError)
  deriving DecidableEq, Repr

/-- A variable and its value: what stands before and after the first equals sign. -/
def binding? (text : String) : Option (String × String) :=
  let cs := text.toList
  match cs.dropWhile (· ≠ '=') with
  | [] => none
  | _ :: value =>
    let name := trim (cs.takeWhile (· ≠ '='))
    if name.isEmpty then none else some (String.ofList name, String.ofList value)

def valueFault? (p : Parameter) (value : String) : Option UsageError :=
  match p with
  | .output =>
    if value.isEmpty then some (.valueMissing p)
    else if (OutputFormat.ofName? value).isNone then some (.badValue value p none)
    else none
  | .variable =>
    if (binding? value).isNone then
      some (.badValue value p (some ("expected KEY=VALUE, got '" ++ value ++ "'")))
    else none
  | .location =>
    if (Location.ofName? value).isNone then
      some (.badValue value p (some (Location.unknownMessage value)))
    else none
  | .call => none
  | _ => if p.hasValue && value.isEmpty then some (.valueMissing p) else none

end PromptScript
