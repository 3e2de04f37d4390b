import PromptScript.Header.Convert
import PromptScript.Text.Lines
import PromptScript.Yaml.Document

/-!
# Header.Read

Reading a header. Faults and declarations are given the line on which their key is written, as far as
a line of the header can be found that begins with the key.
-/

namespace PromptScript

namespace Header

/-- The lines of a header without what ends them. -/
def linesOf (header : List Char) : List (List Char) := (linesWithEnds header).map withoutLineEnd

/-- Whether a line begins with a key, as it is or in quotes of either kind, followed by a colon. -/
def declares (key : List Char) (line : List Char) : Bool :=
  let line := trimStart line
  (key ++ [':']).isPrefixOf line || ('"' :: key ++ ['"', ':']).isPrefixOf line ||
    ('\'' :: key ++ ['\'', ':']).isPrefixOf line

/-- The number of the first line from `start` on that begins with the key, counted from 0. -/
def keyLine? (lines : List (List Char)) (key : String) (start : Nat) : Option Nat :=
  ((lines.drop start).findIdx? (declares key.toList)).map fun i => start + i

/-- A value without the tags around it. -/
def untagged : Yaml.Node → Yaml.Node
  | .tagged _ n => untagged n
  | n => n

def textOf (n : Yaml.Node) (key : String) (line : Nat) : HeaderResult String :=
  match untagged n with
  | .text s => .ok s
  | _ => .error ⟨line, .notText key⟩

/-- The variables of the section that declares them. The line of a variable is looked for from
`start` on, and is the line of the section if it is not found. -/
def readDeclarations (lines : List (List Char)) (headerLine line start : Nat) :
    List (Yaml.Node × Yaml.Node) → HeaderResult (List Declaration)
  | [] => .ok []
  | (k, n) :: rest =>
    match Value.keyText k line with
    | .error e => .error e
    | .ok name =>
      let at_ :=
        match keyLine? lines name start with
        | some i => headerLine + i
        | none => line
      match Value.ofNode at_ n with
      | .error e => .error e
      | .ok v =>
        match readDeclarations lines headerLine line start rest with
        | .error e => .error e
        | .ok more => .ok (⟨name, v, at_⟩ :: more)

def addEntry (lines : List (List Char)) (headerLine : Nat) (h : Header) (k n : Yaml.Node) :
    HeaderResult Header :=
  match Value.keyText k headerLine with
  | .error e => .error e
  | .ok key =>
    let index := keyLine? lines key 0
    let line := headerLine + index.getD 0
    match key with
    | "name" => (textOf n key line).map fun s => { h with name := some s }
    | "description" => (textOf n key line).map fun s => { h with description := some s }
    | "agent" => (textOf n key line).map fun s => { h with agent := some s }
    | "actionLocation" =>
      match textOf n key line with
      | .error e => .error e
      | .ok s =>
        match Location.ofName? s with
        | some l => .ok { h with location := l }
        | none => .error ⟨line, .unknownLocation s⟩
    | "enabled" =>
      match untagged n with
      | .flag b => .ok { h with enabled := b }
      | _ => .error ⟨line, .notFlag key⟩
    | "variables" =>
      match n with
      | .null => .ok h
      | .mapping entries =>
        let start :=
          match index with
          | some i => i + 1
          | none => 0
        (readDeclarations lines headerLine line start entries).map fun ds =>
          { h with declarations := h.declarations ++ ds }
      | _ => .error ⟨line, .notSection key⟩
    | _ => (Value.ofNode line n).map fun v => { h with entries := h.entries.insert key v }

/-- The header with the entries of a mapping, in order. -/
def addEntries (lines : List (List Char)) (headerLine : Nat) (h : Header) :
    List (Yaml.Node × Yaml.Node) → HeaderResult Header
  | [] => .ok h
  | (k, n) :: rest =>
    match addEntry lines headerLine h k n with
    | .error e => .error e
    | .ok h => addEntries lines headerLine h rest

def ofNode (lines : List (List Char)) (headerLine : Nat) : Yaml.Node → HeaderResult Header
  | .null => .ok {}
  | .mapping entries => addEntries lines headerLine {} entries
  | _ => .error ⟨headerLine, .notMapping⟩

/-- The header that a text holds whose first line is the given one. -/
def ofText (header : List Char) (headerLine : Nat) : HeaderResult Header :=
  if trim header = [] then .ok {}
  else
    match Yaml.read header with
    | .ok n => ofNode (linesOf header) headerLine n
    | .error (.onLine line) => .error ⟨headerLine + line, .invalid⟩
    | .error .nowhere => .error ⟨headerLine, .invalid⟩

end Header

end PromptScript
