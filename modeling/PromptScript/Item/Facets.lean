import PromptScript.Item.Path

/-!
# Item.Facets

An item is a path of names joined by slashes. Its facets are the texts that pipelines bind to
variables: the path, its last name, the stem and the extension of that name, and the path of the
parent.
-/

namespace PromptScript

structure Facets where
  path : String
  name : String
  stem : String
  extension : String
  parent : String
  deriving DecidableEq, Repr

namespace Facets

/-- A part of a path as a text. What is not there is empty. -/
def shownPart (part : Option Bytes) : String := (part.map Utf8.shown).getD ""

def ofItem (item : String) : Facets :=
  let path := textBytes item
  { path := item
    name := shownPart (Path.fileName? path)
    stem := shownPart (Path.stem? path)
    extension := shownPart (Path.extension? path)
    parent := shownPart (Path.parent? path) }

/-- The facets in the order in which a pipeline binds them. -/
def toList (f : Facets) : List String := [f.path, f.name, f.stem, f.extension, f.parent]

end Facets

end PromptScript
