import PromptScript.Document.Basic
import PromptScript.NameMap

/-!
# Registry

Scripts that are loaded, offered as actions. Each says in its header where it is offered and whether
it is enabled.
-/

namespace PromptScript

/-- The name of a script's file without its extension. Both kinds of slash end a directory, and a
dot at the very start begins no extension. -/
def scriptStem (path : String) : List Char :=
  let file := (path.toList.reverse.takeWhile fun c => c ≠ '/' && c ≠ '\\').reverse
  match file.reverse.dropWhile (· ≠ '.') with
  | _ :: before@(_ :: _) => before.reverse
  | _ => file

structure LoadedScript where
  path : String
  document : Document

namespace LoadedScript

/-- The name that is shown: the one in the header, or else that of the file. -/
def name (s : LoadedScript) : String :=
  s.document.header.name.getD (String.ofList (scriptStem s.path))

def location (s : LoadedScript) : Location := s.document.header.location

def enabled (s : LoadedScript) : Bool := s.document.header.enabled

def description (s : LoadedScript) : Option String := s.document.header.description

end LoadedScript

abbrev Registry := NameMap LoadedScript

namespace Registry

/-- The enabled scripts that are offered at a location, in the order of their keys. -/
def offeredAt (r : Registry) (location : Location) : List LoadedScript :=
  r.values.filter fun s => s.enabled && s.location == location

end Registry

end PromptScript
