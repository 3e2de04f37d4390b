import PromptScript.Pattern.CharSet

/-!
# Pattern.Basic

Patterns: expressions that describe texts by character sets, sequence, choice and repetition, with
look-arounds of one character to either side. `Matches` says which texts a pattern describes, given
the characters that stand before and after.
-/

namespace PromptScript

/-- A condition on a place between two characters. -/
inductive Look where
  | textStart
  | textEnd
  | lineStart
  | lineEnd
  /-- A line start where a carriage return may end a line too. -/
  | anyLineStart
  /-- A line end where a carriage return may end a line too. -/
  | anyLineEnd
  | wordBoundary (ascii : Bool)
  | noWordBoundary (ascii : Bool)
  | wordStart (ascii : Bool)
  | wordEnd (ascii : Bool)
  | wordStartHalf (ascii : Bool)
  | wordEndHalf (ascii : Bool)
  deriving DecidableEq, Repr

namespace Look

/-- Whether a neighbour is a word character; the ends of the text are none. -/
def inWord (ascii : Bool) : Option Char → Bool
  | none => false
  | some c => if ascii then isAsciiLetter c || isAsciiDigit c || c == '_' else isWordChar c

/-- Whether the condition holds between the characters `before` and `after`. -/
def holds (before after : Option Char) : Look → Bool
  | .textStart => before.isNone
  | .textEnd => after.isNone
  | .lineStart => before.isNone || before == some '\n'
  | .lineEnd => after.isNone || after == some '\n'
  | .anyLineStart =>
    before.isNone || before == some '\n' || (before == some '\r' && after != some '\n')
  | .anyLineEnd =>
    after.isNone || after == some '\r' || (after == some '\n' && before != some '\r')
  | .wordBoundary ascii => inWord ascii before != inWord ascii after
  | .noWordBoundary ascii => inWord ascii before == inWord ascii after
  | .wordStart ascii => !inWord ascii before && inWord ascii after
  | .wordEnd ascii => inWord ascii before && !inWord ascii after
  | .wordStartHalf ascii => !inWord ascii before
  | .wordEndHalf ascii => !inWord ascii after

end Look

inductive Pattern where
  | empty
  | set (s : CharSet)
  | look (l : Look)
  | seq (a b : Pattern)
  | alt (a b : Pattern)
  /-- At least `least` times and, if there is a limit, at most `most` times. -/
  | rep (least : Nat) (most : Option Nat) (a : Pattern)
  deriving DecidableEq, Repr

namespace Pattern

/-- The last character of a text, or the one before the text if it is empty. -/
def lastOr (before : Option Char) (cs : List Char) : Option Char :=
  match cs.getLast? with
  | some c => some c
  | none => before

/-- The first character of a text, or the one after the text if it is empty. -/
def firstOr (after : Option Char) : List Char → Option Char
  | [] => after
  | c :: _ => some c

/-- `Matches p before cs after`: the pattern describes the text `cs` where `before` is the
character in front of it and `after` the one behind it. -/
inductive Matches : Pattern → Option Char → List Char → Option Char → Prop where
  | empty {before after : Option Char} : Matches .empty before [] after
  | set {s : CharSet} {before after : Option Char} {c : Char} (h : s.contains c = true) :
      Matches (.set s) before [c] after
  | look {l : Look} {before after : Option Char} (h : l.holds before after = true) :
      Matches (.look l) before [] after
  | seq {a b : Pattern} {before after : Option Char} {u v : List Char}
      (ha : Matches a before u (firstOr after v)) (hb : Matches b (lastOr before u) v after) :
      Matches (.seq a b) before (u ++ v) after
  | altLeft {a b : Pattern} {before after : Option Char} {u : List Char}
      (h : Matches a before u after) : Matches (.alt a b) before u after
  | altRight {a b : Pattern} {before after : Option Char} {u : List Char}
      (h : Matches b before u after) : Matches (.alt a b) before u after
  | repNone {a : Pattern} {most : Option Nat} {before after : Option Char} :
      Matches (.rep 0 most a) before [] after
  | repMore {a : Pattern} {least : Nat} {most : Option Nat} {before after : Option Char}
      {u v : List Char} (hmost : most ≠ some 0) (ha : Matches a before u (firstOr after v))
      (hrest : Matches (.rep (least - 1) (most.map (· - 1)) a) (lastOr before u) v after) :
      Matches (.rep least most a) before (u ++ v) after

/-- Several patterns one after the other. -/
def seqs : List Pattern → Pattern
  | [] => .empty
  | [p] => p
  | p :: rest => .seq p (seqs rest)

def alts : List Pattern → Pattern
  | [] => .empty
  | [p] => p
  | p :: rest => .alt p (alts rest)

end Pattern

end PromptScript
