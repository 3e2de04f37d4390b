import PromptScript.Text.Fields

/-!
# CommandLine.Json

Values of JSON and their text, on one line or indented.
-/

namespace PromptScript

/-- A value of JSON. The fields of a record stay in the order in which they are given. -/
inductive JsonValue where
  | null
  | flag (b : Bool)
  | number (n : Int)
  | text (s : String)
  | list (items : List JsonValue)
  | record (fields : List (String × JsonValue))

namespace JsonValue

def textOrNull : Option String → JsonValue
  | some s => .text s
  | none => .null

/-- A code point below 32 as an escape of four hexadecimal digits. -/
def controlEscape (n : Nat) : List Char :=
  let digits := Nat.toDigits 16 n
  '\\' :: 'u' :: List.replicate (4 - digits.length) '0' ++ digits

def escaped (c : Char) : List Char :=
  match c with
  | '"' => ['\\', '"']
  | '\\' => ['\\', '\\']
  | '\n' => ['\\', 'n']
  | '\r' => ['\\', 'r']
  | '\t' => ['\\', 't']
  | '\x08' => ['\\', 'b']
  | '\x0c' => ['\\', 'f']
  | c => if c < ' ' then controlEscape c.toNat else [c]

def quote (s : String) : String := String.ofList ('"' :: s.toList.flatMap escaped ++ ['"'])

mutual

def compact : JsonValue → String
  | .null => "null"
  | .flag b => toString b
  | .number n => toString n
  | .text s => quote s
  | .list items => "[" ++ joinTexts "," (compactItems items) ++ "]"
  | .record fields => "\x7b" ++ joinTexts "," (compactFields fields) ++ "\x7d"

def compactItems : List JsonValue → List String
  | [] => []
  | v :: rest => v.compact :: compactItems rest

def compactFields : List (String × JsonValue) → List String
  | [] => []
  | (k, v) :: rest => (quote k ++ ":" ++ v.compact) :: compactFields rest

end

def indent (depth : Nat) : String := String.ofList (List.replicate (2 * depth) ' ')

/-- Lines between two brackets; without any the brackets stand side by side. -/
def bracketed (depth : Nat) (first last : String) (lines : List String) : String :=
  if lines.isEmpty then first ++ last
  else
    first ++ "\n" ++ joinTexts ",\n" (lines.map (indent (depth + 1) ++ ·)) ++ "\n" ++ indent depth
      ++ last

mutual

/-- The text of a value with each part on a line of its own. -/
def pretty (depth : Nat) : JsonValue → String
  | .list items => bracketed depth "[" "]" (prettyItems (depth + 1) items)
  | .record fields => bracketed depth "\x7b" "\x7d" (prettyFields (depth + 1) fields)
  | .null => "null"
  | .flag b => toString b
  | .number n => toString n
  | .text s => quote s

def prettyItems (depth : Nat) : List JsonValue → List String
  | [] => []
  | v :: rest => v.pretty depth :: prettyItems depth rest

def prettyFields (depth : Nat) : List (String × JsonValue) → List String
  | [] => []
  | (k, v) :: rest => (quote k ++ ": " ++ v.pretty depth) :: prettyFields depth rest

end

end JsonValue

end PromptScript
