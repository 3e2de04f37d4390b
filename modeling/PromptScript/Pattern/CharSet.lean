import PromptScript.Text.Age
import PromptScript.Text.Blank
import PromptScript.Text.Boundary
import PromptScript.Text.Folding
import PromptScript.Text.Letter

/-!
# Pattern.CharSet

Sets of characters as a pattern writes them: ranges, named classes, and the operations that combine
them. A set is kept as an expression; membership is decided on it.
-/

namespace PromptScript

inductive CharSet where
  /-- Code points between two ends, both included. -/
  | span (first last : Nat)
  | category (k : Category)
  | script (s : Script)
  /-- The characters that a script uses, its own and others. -/
  | usedIn (s : Script)
  | property (p : Property)
  | boundary (k : BoundaryClass)
  | age (a : Age)
  | digit
  | blank
  | word
  | union (a b : CharSet)
  | inter (a b : CharSet)
  | diff (a b : CharSet)
  | symmDiff (a b : CharSet)
  | compl (a : CharSet)
  /-- The characters that differ at most in case from one of the set. -/
  | caseless (a : CharSet)
  /-- The same where only ASCII letters have a case. -/
  | asciiCaseless (a : CharSet)
  deriving DecidableEq, Repr

namespace CharSet

/-- The set without characters. -/
def none : CharSet := .span 1 0

def all : CharSet := .span 0 0x10FFFF

def ascii : CharSet := .span 0 0x7F

def single (c : Char) : CharSet := .span c.toNat c.toNat

def unions : List CharSet → CharSet
  | [] => .none
  | [s] => s
  | s :: rest => .union s (unions rest)

def contains : CharSet → Char → Bool
  | .span first last, c => first ≤ c.toNat && c.toNat ≤ last
  | .category k, c => k.contains c
  | .script s, c => s.contains c
  | .usedIn s, c => s.uses c
  | .property p, c => p.contains c
  | .boundary k, c => k.contains c
  | .age a, c => a.contains c
  | .digit, c => isDecimalDigit c
  | .blank, c => isBlank c
  | .word, c => isWordChar c
  | .union a b, c => a.contains c || b.contains c
  | .inter a b, c => a.contains c && b.contains c
  | .diff a b, c => a.contains c && !b.contains c
  | .symmDiff a b, c => a.contains c != b.contains c
  | .compl a, c => !a.contains c
  | .caseless a, c => a.contains c || (Folding.partners c).any a.contains
  | .asciiCaseless a, c => a.contains c || (Folding.asciiPartners c).any a.contains

/-- Whether no character from U+0080 to U+00FF belongs to the set. Under ASCII rules these stand
for the bytes outside ASCII. -/
def isAsciiOnly (s : CharSet) : Bool :=
  (List.range 128).all fun n => !s.contains (Char.ofNat (128 + n))

end CharSet

end PromptScript
