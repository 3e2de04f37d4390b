import PromptScript.NameMap
import PromptScript.Reference

/-!
# Run.Context

The values that the host gives to variables, and how a text with references is filled in. A variable
of the document comes before a value of the host.
-/

namespace PromptScript

/-- Values by canonical name. -/
structure Context where
  values : NameMap String := .empty

namespace Context

def set (c : Context) (name value : String) : Context :=
  ⟨c.values.insert (canonicalName name) value⟩

def get? (c : Context) (name : String) : Option String := c.values.get? (canonicalName name)

/-- The context of the given values; of two for one variable the later counts. -/
def ofList (pairs : List (String × String)) : Context :=
  pairs.foldl (fun c e => c.set e.1 e.2) {}

end Context

/-- What is known while a document is run: what the host gives, and the variables so far. -/
structure Scene where
  context : Context
  /-- The texts of the variables that are rendered, by canonical name. -/
  rendered : NameMap String := .empty

namespace Scene

def find? (s : Scene) (name : String) : Option String :=
  (s.rendered.get? name).or (s.context.get? name)

def fill (s : Scene) (text : String) : String := interpolate s.find? text

end Scene

end PromptScript
