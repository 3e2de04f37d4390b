import PromptScript.FileTree.Source
import PromptScript.Toml.Document

/-!
# Config

The configuration of a project: which files are items, and what is logged. It is a TOML file whose
keys may all be left out; keys that mean nothing are passed over.
-/

namespace PromptScript

/-- The names that are ignored unless the configuration says otherwise. -/
def usualIgnore : List String := [".git", "target", "node_modules"]

structure Config where
  limits : Limits := { ignore := usualIgnore }
  /-- Which messages are logged. -/
  logFilter : Option String := none
  deriving DecidableEq, Repr

inductive ConfigError where
  | unreadable (path : String) (e : FileError)
  | invalid (path : String)
  deriving DecidableEq, Repr

def ConfigError.message : ConfigError → String
  | .unreadable path e => "could not read '" ++ path ++ "': " ++ e.message
  | .invalid path => "could not parse '" ++ path ++ "'"

namespace Config

def text? : Toml.Value → Option String
  | .text s => some s
  | _ => none

def names? : Toml.Value → Option (List String)
  | .list items => items.mapM text?
  | _ => none

/-- The number of bytes that a value holds. -/
def size? : Toml.Value → Option Nat
  | .integer n => if 0 ≤ n then some n.toNat else none
  | _ => none

/-- A value read by `read`; one that is not there is replaced by the usual one. -/
def orUsual {α : Type} (usual : α) (read : Toml.Value → Option α) : Option Toml.Value → Option α
  | none => some usual
  | some v => read v

/-- The limits that a value describes: a table by its keys, or a list by its order. -/
def limits? : Toml.Value → Option Limits
  | .table _ es => ofParts (es.lookup "ignore") (es.lookup "max_file_size")
  | .list items => ofParts items[0]? items[1]?
  | _ => none
where
  /-- The limits of given parts. -/
  ofParts (ignore size : Option Toml.Value) : Option Limits :=
    let usual : Limits := { ignore := usualIgnore }
    match orUsual usual.ignore names? ignore, orUsual usual.maxFileSize size? size with
    | some ignore, some size => some ⟨ignore, size⟩
    | _, _ => none

/-- The log filter that a value describes: a table by its key, or a list by its first value. -/
def logFilter? : Toml.Value → Option (Option String)
  | .table _ es => orUsual none (fun v => (text? v).map some) (es.lookup "filter")
  | .list (v :: _) => (text? v).map some
  | _ => none

def ofText? (text : String) : Option Config :=
  match Toml.read text with
  | none => none
  | some es =>
    match orUsual { ignore := usualIgnore } limits? (es.lookup "index"),
        orUsual none logFilter? (es.lookup "log") with
    | some limits, some filter => some ⟨limits, filter⟩
    | _, _ => none

def ofFile (p : Place) (path : Bytes) : Except ConfigError Config :=
  match p.readText path with
  | .error e => .error (.unreadable (Utf8.shown path) e)
  | .ok text =>
    match ofText? text with
    | none => .error (.invalid (Utf8.shown path))
    | some c => .ok c

def fileName : String := "shire.toml"

/-- The configuration for a root: the file that is named explicitly, or else the one at the root, if
there is one. -/
def load (p : Place) (explicit : Option String) (root : String) : Except ConfigError Config :=
  match explicit with
  | some path => ofFile p (textBytes path)
  | none =>
    let path := joinPath (textBytes root) (textBytes fileName)
    if p.isFile path then ofFile p path else .ok {}

end Config

end PromptScript
