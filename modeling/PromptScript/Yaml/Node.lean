import PromptScript.Decimal.Shortest
import PromptScript.Text.Fields
import PromptScript.Text.Quoted

/-!
# Yaml.Node

The values of YAML texts: when two of them are the same, and how messages show them.
-/

namespace PromptScript.Yaml

inductive Node where
  | null
  | flag (b : Bool)
  /-- An integer from `-2 ^ 63` up to `2 ^ 64 - 1`. -/
  | integer (n : Int)
  | float (x : Binary64)
  | text (s : String)
  | sequence (items : List Node)
  /-- Pairs in the order of the text; no key stands twice. -/
  | mapping (entries : List (Node × Node))
  /-- A value with a tag, given without its exclamation mark. -/
  | tagged (tag : String) (value : Node)
  deriving Repr

namespace Node

mutual

/-- Whether two values are the same; the order of a mapping's entries does not count. -/
def same : Node → Node → Bool
  | .null, .null => true
  | .flag a, .flag b => a == b
  | .integer a, .integer b => a == b
  | .float a, .float b => a.same b
  | .text a, .text b => a == b
  | .sequence a, .sequence b => sameItems a b
  | .mapping a, .mapping b => a.length == b.length && sameEntries a b
  | .tagged s a, .tagged t b => s == t && same a b
  | _, _ => false

def sameItems : List Node → List Node → Bool
  | [], [] => true
  | a :: as, b :: bs => same a b && sameItems as bs
  | _, _ => false

def sameEntries : List (Node × Node) → List (Node × Node) → Bool
  | [], _ => true
  | (k, v) :: rest, others =>
    (others.any fun e => same k e.1 && same v e.2) && sameEntries rest others

end

mutual

def shown : Node → String
  | .null => "Null"
  | .flag b => "Bool(" ++ toString b ++ ")"
  | .integer n => "Number(" ++ toString n ++ ")"
  | .float x => "Number(" ++ x.render ++ ")"
  | .text s => "String(" ++ quoted s ++ ")"
  | .sequence items => "Sequence [" ++ joinTexts ", " (shownItems items) ++ "]"
  | .mapping entries => "Mapping \x7b" ++ joinTexts ", " (shownEntries entries) ++ "\x7d"
  | .tagged tag value =>
    "TaggedValue \x7b tag: !" ++ tag ++ ", value: " ++ shown value ++ " \x7d"

def shownItems : List Node → List String
  | [] => []
  | v :: rest => shown v :: shownItems rest

/-- The entries of a mapping as messages show them. A key that is a flag, a number or a text stands
without the name of its kind. -/
def shownEntries : List (Node × Node) → List String
  | [] => []
  | (k, v) :: rest =>
    let key :=
      match k with
      | .flag b => toString b
      | .integer n => toString n
      | .float x => x.render
      | .text s => quoted s
      | k => shown k
    (key ++ ": " ++ shown v) :: shownEntries rest

end

end Node

end PromptScript.Yaml
