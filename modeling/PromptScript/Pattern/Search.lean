import PromptScript.Pattern.Reader

/-!
# Pattern.Search

Finding a pattern in a text. The text is read once; what remains to be matched after each character
is a list of patterns, grown by a new start at every place.
-/

namespace PromptScript

namespace Pattern

/-- Whether the pattern describes the empty text between two characters. -/
def nullable (before after : Option Char) : Pattern → Bool
  | .empty => true
  | .set _ => false
  | .look l => l.holds before after
  | .seq a b => nullable before after a && nullable before after b
  | .alt a b => nullable before after a || nullable before after b
  | .rep least _ a => least == 0 || nullable before after a

/-- What remains of one round of a repetition and of the rounds after it. A repetition that is used
up leaves no more to do. -/
def before (rest : Pattern) (p : Pattern) : Pattern :=
  match p, rest with
  | .empty, rest => rest
  | p, .rep _ (some 0) _ => p
  | p, rest => .seq p rest

/-- The patterns that remain to be matched once `c` has been read after the character `prev`: the
pattern describes `c` and a further text exactly if one of them describes that text. -/
def step (prev : Option Char) (c : Char) : Pattern → List Pattern
  | .empty => []
  | .set s => if s.contains c then [.empty] else []
  | .look _ => []
  | .seq a b =>
    let after := (step prev c a).map (before b)
    if nullable prev (some c) a then after ++ step prev c b else after
  | .alt a b => step prev c a ++ step prev c b
  | .rep least most a =>
    if most = some 0 then []
    else
      let least := if nullable prev (some c) a then 0 else least - 1
      (step prev c a).map (before (.rep least (most.map (· - 1)) a))

/-- A list with one more pattern, unless it is there already. -/
def addNew (p : Pattern) (ps : List Pattern) : List Pattern := if ps.contains p then ps else p :: ps

/-- The patterns of a list, each once. -/
def distinct (ps : List Pattern) : List Pattern := ps.foldr addNew []

/-- Whether one of the pending patterns describes a text that starts here, or `p` describes one that
starts here or later. -/
def foundFrom (p : Pattern) (pending : List Pattern) (prev : Option Char) : List Char → Bool
  | [] => (p :: pending).any (nullable prev none)
  | c :: rest =>
    let now := addNew p pending
    now.any (nullable prev (some c)) ||
      foundFrom p (distinct (now.flatMap (step prev c))) (some c) rest

def found (p : Pattern) (text : String) : Bool := foundFrom p [] none text.toList

end Pattern

end PromptScript
