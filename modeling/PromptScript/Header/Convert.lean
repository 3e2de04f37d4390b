import PromptScript.Calendar
import PromptScript.Decimal.Power
import PromptScript.Header.Basic
import PromptScript.Yaml.Node

/-!
# Header.Convert

From the values of a YAML text to the values of a header. Texts that begin like an expression of the
pattern language are read as one, and a text that is a date becomes a date.
-/

namespace PromptScript

namespace Value

/-- The start of a case match. -/
def caseOpening : List Char := "case ".toList

/-- Whether a text is an expression of the pattern language: it starts with a slash, or with the word
that begins a case match and a space. -/
def isExpression (trimmed : List Char) : Bool :=
  trimmed.head? == some '/' || caseOpening.isPrefixOf trimmed

def ofText (s : String) (line : Nat) : HeaderResult Value :=
  let trimmed := trim s.toList
  if isExpression trimmed then
    match Expression.ofText (String.ofList trimmed) line with
    | .ok v => .ok v
    | .error e => .error (e.map .expression)
  else if isDate trimmed then .ok (.date (String.ofList trimmed))
  else .ok (.text s)

def keyText (key : Yaml.Node) (line : Nat) : HeaderResult String :=
  match key with
  | .text s => .ok s
  | key => .error ⟨line, .badKey key.shown⟩

mutual

/-- The value of a node; every fault is on the given line. -/
def ofNode (line : Nat) : Yaml.Node → HeaderResult Value
  | .null => .error ⟨line, .nullValue⟩
  | .flag b => .ok (.flag b)
  | .integer n =>
    if fitsSigned64 n then .ok (.number n) else .error ⟨line, .notInteger (toString n)⟩
  | .float x => .error ⟨line, .notInteger x.render⟩
  | .text s => ofText s line
  | .sequence items =>
    match ofItems line items with
    | .error e => .error e
    | .ok vs => .ok (.list vs)
  | .mapping entries =>
    match ofEntries line entries with
    | .error e => .error e
    | .ok fields => .ok (.record fields.entries)
  | .tagged tag _ => .error ⟨line, .taggedValue tag⟩

def ofItems (line : Nat) : List Yaml.Node → HeaderResult (List Value)
  | [] => .ok []
  | n :: rest =>
    match ofNode line n with
    | .error e => .error e
    | .ok v =>
      match ofItems line rest with
      | .error e => .error e
      | .ok vs => .ok (v :: vs)

def ofEntries (line : Nat) : List (Yaml.Node × Yaml.Node) → HeaderResult (NameMap Value)
  | [] => .ok .empty
  | (k, n) :: rest =>
    match keyText k line with
    | .error e => .error e
    | .ok key =>
      match ofNode line n with
      | .error e => .error e
      | .ok v =>
        match ofEntries line rest with
        | .error e => .error e
        | .ok fields => .ok (fields.insert key v)

end

end Value

end PromptScript
