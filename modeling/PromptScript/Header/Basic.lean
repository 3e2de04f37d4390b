import PromptScript.AtLine
import PromptScript.Header.Location
import PromptScript.Header.Value
import PromptScript.Pipeline.Expression

/-!
# Header.Basic

The header of a document: what the document is called, where and by whom it is run, and the
variables that it declares.
-/

namespace PromptScript

structure Declaration where
  name : String
  value : Value
  /-- The line of the document that declares it. -/
  line : Nat

structure Header where
  name : Option String := none
  description : Option String := none
  location : Location := .standard
  enabled : Bool := true
  agent : Option String := none
  /-- The variables in the order in which they are declared. -/
  declarations : List Declaration := []
  /-- The values of keys that have no meaning of their own. -/
  entries : NameMap Value := .empty

inductive HeaderFault where
  /-- The header has a beginning and no end. -/
  | unterminated
  /-- The header is no YAML text. -/
  | invalid
  | notMapping
  | badKey (shown : String)
  | notText (key : String)
  | notFlag (key : String)
  | notSection (key : String)
  | unknownLocation (name : String)
  | notInteger (text : String)
  | nullValue
  | taggedValue (tag : String)
  | expression (f : ExpressionFault)
  deriving DecidableEq, Repr

def HeaderFault.message : HeaderFault → String
  | .unterminated => "unterminated front matter"
  | .invalid => "invalid front matter"
  | .notMapping => "front matter must be a mapping"
  | .badKey shown => "keys must be strings, got " ++ shown
  | .notText key => "'" ++ key ++ "' must be a string"
  | .notFlag key => "'" ++ key ++ "' must be a boolean"
  | .notSection key => "'" ++ key ++ "' must be a mapping"
  | .unknownLocation name => Location.unknownMessage name
  | .notInteger text => "only integer numbers are supported, got " ++ text
  | .nullValue => "null values are not supported"
  | .taggedValue tag => "tagged values are not supported: !" ++ tag
  | .expression f => f.message

abbrev HeaderResult (α : Type) := Except (AtLine HeaderFault) α

end PromptScript
