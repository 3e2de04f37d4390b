import PromptScript.Document.Sections
import PromptScript.Header.Read
import PromptScript.Symbols

/-!
# Document.Basic

Compiled documents. Compiling reads the header, declares its variables one after the other and checks
that every reference names a variable that is declared above it; the body may refer to all of them.
-/

namespace PromptScript

/-- A document whose references are checked. -/
structure Document where
  header : Header
  body : List Char
  /-- The line of the body's first line. -/
  bodyLine : Nat
  /-- The variables of the document and those that every host provides. -/
  symbols : NameMap Symbol

inductive DocumentFault where
  | header (f : HeaderFault)
  | symbol (e : SymbolError)
  deriving DecidableEq, Repr

def DocumentFault.message : DocumentFault → String
  | .header f => f.message
  | .symbol e => e.message

def AtLine.located (e : AtLine DocumentFault) : String :=
  "line " ++ toString e.line ++ ": " ++ e.fault.message

abbrev DocumentResult (α : Type) := Except (AtLine DocumentFault) α

def Value.variableType : Value → VariableType
  | .number _ => .number
  | .flag _ => .flag
  | _ => .text

/-- The texts of a value in which references are replaced when it is run: the text itself, the
messages of prompts, the subject of a case match. -/
def Value.texts : Value → List String
  | .text s => [s]
  | .action a => a.messages
  | .caseMatch m => m.subject :: m.arms.values.flatMap Action.messages
  | _ => []

namespace Document

/-- The names that a document knows somewhere: those of every host and all that the header
declares. -/
def knownNames (h : Header) : List String :=
  SymbolTable.builtInNames ++ h.declarations.map fun d => canonicalName d.name

/-- Whether a reference has to be declared. A bare name in braces that is known nowhere is plain
text. -/
def isChecked (known : List String) (r : Reference) : Bool := !r.bare || known.contains r.name

/-- The first reference among those given that the table does not hold. -/
def firstUndeclared? (t : SymbolTable) (known : List String) (found : List Occurrence) :
    Option Occurrence :=
  found.find? fun o => isChecked known o.reference && !t.contains o.reference.label

/-- Checks the references of a text; a fault is on the line that `lineOf` gives for it. -/
def checkText (t : SymbolTable) (known : List String) (lineOf : Occurrence → Nat) (text : String) :
    DocumentResult Unit :=
  match firstUndeclared? t known (references text) with
  | none => .ok ()
  | some o => .error ⟨lineOf o, .symbol (.undeclared o.reference.name)⟩

def checkTexts (t : SymbolTable) (known : List String) (line : Nat) :
    List String → DocumentResult Unit
  | [] => .ok ()
  | text :: rest =>
    match checkText t known (fun _ => line) text with
    | .error e => .error e
    | .ok () => checkTexts t known line rest

/-- Checks and declares variables in order. -/
def declare (known : List String) (t : SymbolTable) : List Declaration → DocumentResult SymbolTable
  | [] => .ok t
  | d :: rest =>
    match checkTexts t known d.line d.value.texts with
    | .error e => .error e
    | .ok () =>
      match t.add d.name ⟨d.value.variableType, .userDefined, d.line⟩ with
      | (.error e, _) => .error ⟨d.line, .symbol e⟩
      | (.ok (), t) => declare known t rest

def headerOf (s : Sections) : HeaderResult Header :=
  match s.header with
  | none => .ok {}
  | some text => Header.ofText text Sections.firstHeaderLine

def ofHeader (h : Header) (s : Sections) : DocumentResult Document :=
  let known := knownNames h
  match declare known .builtIns h.declarations with
  | .error e => .error e
  | .ok t =>
    match checkText t known (fun o => s.bodyLine + o.lineOffset) (String.ofList s.body) with
    | .error e => .error e
    | .ok () => .ok ⟨h, s.body, s.bodyLine, t.symbols⟩

def compile (text : String) : DocumentResult Document :=
  match Sections.ofText? text.toList with
  | none => .error ⟨1, .header .unterminated⟩
  | some s =>
    match headerOf s with
    | .error e => .error (e.map .header)
    | .ok h => ofHeader h s

end Document

end PromptScript
