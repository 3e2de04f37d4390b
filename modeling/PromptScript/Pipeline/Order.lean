import PromptScript.Item.Path

/-!
# Pipeline.Order

Orders on items, and sorting by them. An order is a list of keys, each ascending or descending; the
first key on which two items differ decides.
-/

namespace PromptScript

inductive SortKey where
  | name
  | path
  | extension
  deriving DecidableEq, Repr

namespace SortKey

def all : List SortKey := [.name, .path, .extension]

def word : SortKey → String
  | .name => "name"
  | .path => "path"
  | .extension => "extension"

/-- The part of a path that a key looks at; empty if there is none, or if it is no text. -/
def extract (k : SortKey) (item : String) : String :=
  match k with
  | .path => item
  | .name => ((Path.fileName? (textBytes item)).bind Utf8.text?).getD ""
  | .extension => ((Path.extension? (textBytes item)).bind Utf8.text?).getD ""

end SortKey

structure SortOrder where
  key : SortKey
  descending : Bool := false
  deriving DecidableEq, Repr

namespace SortOrder

/-- The order that an argument asks for: the word of a key, with a dash in front for descending. -/
def ofArgument? (argument : String) : Option SortOrder :=
  match argument.toList with
  | '-' :: word => (SortKey.all.find? fun k => k.word.toList == word).map fun k => ⟨k, true⟩
  | word => (SortKey.all.find? fun k => k.word.toList == word).map fun k => ⟨k, false⟩

def compareParts (o : SortOrder) (a b : String) : Ordering :=
  let found := compare (o.key.extract a).toList (o.key.extract b).toList
  if o.descending then found.swap else found

end SortOrder

/-- Compares two items by each order in turn until one tells them apart. -/
def compareBy (orders : List SortOrder) (a b : String) : Ordering :=
  orders.foldr (fun o rest => (o.compareParts a b).then rest) .eq

/-- Puts a value before the first one that may follow it. -/
def insertBy {α : Type u} (le : α → α → Bool) (a : α) : List α → List α
  | [] => [a]
  | b :: rest => if le a b then a :: b :: rest else b :: insertBy le a rest

/-- Sorts values. Those that may each come before the other stay as they were. -/
def sortBy {α : Type u} (le : α → α → Bool) : List α → List α
  | [] => []
  | a :: rest => insertBy le a (sortBy le rest)

/-- Sorts items; without any order, by their paths. -/
def sortItems (orders : List SortOrder) (items : List String) : List String :=
  let orders := if orders.isEmpty then [⟨.path, false⟩] else orders
  sortBy (fun a b => (compareBy orders a b).isLE) items

end PromptScript
