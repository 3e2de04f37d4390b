/-!
# Toml.Value

Values of TOML, and the tables that headers and dotted keys build. How a table came about decides by
what it may still be extended.
-/

namespace PromptScript.Toml

inductive Origin where
  /-- By a header of its own. -/
  | header
  /-- By a header of a table below it. -/
  | implied
  /-- By a dotted key. -/
  | dotted
  /-- Between braces; such a table is closed. -/
  | inline
  deriving DecidableEq, Repr

inductive Value where
  | text (s : String)
  | integer (n : Int)
  | float
  | flag (b : Bool)
  /-- A date, a time or both. -/
  | moment
  | list (items : List Value)
  | table (origin : Origin) (entries : List (String × Value))
  /-- The tables of repeated headers, the last one first. -/
  | tables (items : List (List (String × Value)))

abbrev Entries := List (String × Value)

/-- The entries with a value put in place of the one that the key has, or at the end. -/
def put (key : String) (value : Value) : Entries → Entries
  | [] => [(key, value)]
  | (k, v) :: rest => if k = key then (k, value) :: rest else (k, v) :: put key value rest

/-- Whether a table can be reached by a header or, if `dotted`, by a dotted key. -/
def Origin.isOpen (dotted : Bool) : Origin → Bool
  | .inline => false
  | .header => !dotted
  | .implied => true
  | .dotted => true

/-- Changes the table at a path; the tables on the way are made if they are not there. -/
def editAt (dotted : Bool) (edit : Origin → Entries → Option Entries) :
    List String → Origin → Entries → Option Entries
  | [], origin, es => edit origin es
  | key :: rest, _, es =>
    match es.lookup key with
    | none =>
      let origin : Origin := if dotted then .dotted else .implied
      (editAt dotted edit rest origin []).map fun inner => put key (.table origin inner) es
    | some (.table origin inner) =>
      if origin.isOpen dotted then
        (editAt dotted edit rest origin inner).map fun inner => put key (.table origin inner) es
      else none
    | some (.tables (last :: before)) =>
      (editAt dotted edit rest .header last).map fun last => put key (.tables (last :: before)) es
    | some _ => none

/-- Adds a key with its value. The last table on a dotted way has to be one that dotted keys made,
and no key may be given twice. -/
def addPair (es : Entries) (path : List String) (value : Value) : Option Entries :=
  match path.reverse with
  | [] => none
  | key :: before =>
    editAt true
      (fun origin es =>
        if (origin == .dotted) == before.isEmpty || (es.lookup key).isSome then none
        else some (put key value es))
      before.reverse .header es

/-- Adds keys with their values in order. -/
def addPairs (es : Entries) : List (List String × Value) → Option Entries
  | [] => some es
  | (path, value) :: rest =>
    match addPair es path value with
    | none => none
    | some es => addPairs es rest

structure Section where
  path : List String := []
  /-- Whether the header is one of those that may be repeated. -/
  repeated : Bool := false
  pairs : List (List String × Value) := []

/-- Adds a section. A table that a header below it implied may still be given its own header. -/
def addSection (es : Entries) (s : Section) : Option Entries :=
  match s.path.reverse with
  | [] => addPairs es s.pairs
  | key :: before =>
    editAt false
      (fun _ es =>
        if s.repeated then
          match es.lookup key with
          | none => (addPairs [] s.pairs).map fun inner => put key (.tables [inner]) es
          | some (.tables items) =>
            (addPairs [] s.pairs).map fun inner => put key (.tables (inner :: items)) es
          | some _ => none
        else
          match es.lookup key with
          | none => (addPairs [] s.pairs).map fun inner => put key (.table .header inner) es
          | some (.table .implied inner) =>
            (addPairs inner s.pairs).map fun inner => put key (.table .header inner) es
          | some _ => none)
      before.reverse .header es

def build (es : Entries) : List Section → Option Entries
  | [] => some es
  | s :: rest =>
    match addSection es s with
    | none => none
    | some es => build es rest

end PromptScript.Toml
