import PromptScript.NameMap
import PromptScript.Reference

/-!
# Symbols

The variables that a document may refer to. A symbol table holds each variable once, under its
canonical name, with its type, its scope and the line that declares it.
-/

namespace PromptScript

inductive VariableType where
  | text
  | flag
  | number
  deriving DecidableEq, Repr

/-- Who declares a variable: every host, or the document. -/
inductive Scope where
  | builtIn
  | userDefined
  deriving DecidableEq, Repr

structure Symbol where
  type : VariableType
  scope : Scope
  line : Nat
  deriving DecidableEq, Repr

/-- Why an operation on a symbol table is refused. -/
inductive SymbolError where
  | duplicate (name : String) (first : Symbol)
  | undeclared (name : String)
  deriving DecidableEq, Repr

def VariableType.word : VariableType → String
  | .text => "String"
  | .flag => "Boolean"
  | .number => "Number"

def Scope.word : Scope → String
  | .builtIn => "BuiltIn"
  | .userDefined => "UserDefined"

def SymbolError.message : SymbolError → String
  | .duplicate name first =>
    "variable '" ++ name ++ "' already declared (" ++ first.scope.word ++ ", line " ++
      toString first.line ++ ")"
  | .undeclared name => "variable '" ++ name ++ "' not found"

/-- New values for some of a symbol's fields. -/
structure SymbolUpdate where
  type : Option VariableType
  scope : Option Scope
  line : Option Nat
  deriving DecidableEq, Repr

def SymbolUpdate.apply (u : SymbolUpdate) (s : Symbol) : Symbol :=
  ⟨u.type.getD s.type, u.scope.getD s.scope, u.line.getD s.line⟩

/-- A symbol table: symbols by canonical name. -/
structure SymbolTable where
  symbols : NameMap Symbol

/-- What a change to a symbol table yields, with the table that it leaves. -/
abbrev TableChange := Except SymbolError Unit × SymbolTable

namespace SymbolTable

/-- The table without symbols. -/
def empty : SymbolTable := ⟨.empty⟩

def get (t : SymbolTable) (name : String) : Except SymbolError Symbol :=
  match t.symbols.get? (canonicalName name) with
  | some s => .ok s
  | none => .error (.undeclared (canonicalName name))

/-- Declares a variable, unless its canonical name is taken. -/
def add (t : SymbolTable) (name : String) (s : Symbol) : TableChange :=
  match t.symbols.get? (canonicalName name) with
  | some first => (.error (.duplicate (canonicalName name) first), t)
  | none => (.ok (), ⟨t.symbols.insert (canonicalName name) s⟩)

def addBuiltIn (t : SymbolTable) (name : String) (type : VariableType) (line : Nat) :
    TableChange := t.add name ⟨type, .builtIn, line⟩

def update (t : SymbolTable) (name : String) (u : SymbolUpdate) : TableChange :=
  match t.symbols.get? (canonicalName name) with
  | some s => (.ok (), ⟨t.symbols.insert (canonicalName name) (u.apply s)⟩)
  | none => (.error (.undeclared (canonicalName name)), t)

/-- Removes a variable; it is an error if there was nothing to remove. -/
def remove (t : SymbolTable) (name : String) : TableChange :=
  let left : SymbolTable := ⟨t.symbols.erase (canonicalName name)⟩
  match t.symbols.get? (canonicalName name) with
  | some _ => (.ok (), left)
  | none => (.error (.undeclared (canonicalName name)), left)

def contains (t : SymbolTable) (name : String) : Bool := t.symbols.contains (canonicalName name)

def size (t : SymbolTable) : Nat := t.symbols.size

def builtInNames : List String :=
  ["input", "selection", "language", "fileName", "filePath", "frameworkContext"]

def builtInSymbol : Symbol := ⟨.text, .builtIn, 0⟩

def builtIns : SymbolTable := ⟨.ofList (builtInNames.map fun name => (name, builtInSymbol))⟩

end SymbolTable

end PromptScript
