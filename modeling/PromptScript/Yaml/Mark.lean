import PromptScript.Text.Letter

/-!
# Yaml.Mark

Places in a YAML text, and the classes of characters that its layout depends on.
-/

namespace PromptScript.Yaml

/-- A place in a text: the number of characters before it, its line and its column, all from 0. -/
structure Mark where
  index : Nat := 0
  line : Nat := 0
  column : Nat := 0
  deriving DecidableEq, Repr

/-- The place after a character that ends no line. -/
def Mark.next (m : Mark) : Mark := ⟨m.index + 1, m.line, m.column + 1⟩

/-- The place after `n` characters that end no line. -/
def Mark.skip (m : Mark) (n : Nat) : Mark := ⟨m.index + n, m.line, m.column + n⟩

/-- The place after a line break of `n` characters. -/
def Mark.nextLine (m : Mark) (n : Nat) : Mark := ⟨m.index + n, m.line + 1, 0⟩

structure Cursor where
  mark : Mark
  rest : List Char
  deriving Repr

/-- The cursor after `n` characters that end no line. -/
def Cursor.skip (c : Cursor) (n : Nat) : Cursor := ⟨c.mark.skip n, c.rest.drop n⟩

def isGap (c : Char) : Bool := c == ' ' || c == '\t'

/-- Whether a character ends a line. -/
def isBreak (c : Char) : Bool :=
  c == '\n' || c == '\r' || c == '\x85' || c == '\u2028' || c == '\u2029'

/-- Whether the text is at its end, or goes on with a space, a tab or a line break. -/
def atGap : List Char → Bool
  | [] => true
  | c :: _ => isGap c || isBreak c

/-- What a line break contributes to a text: a newline, except that the two separators of the
character standard stand for themselves. -/
def breakText (c : Char) : List Char :=
  if c = '\u2028' ∨ c = '\u2029' then [c] else ['\n']

/-- The length of the line break at the start of a text, 0 if there is none. -/
def breakLength : List Char → Nat
  | '\r' :: '\n' :: _ => 2
  | c :: _ => if isBreak c then 1 else 0
  | [] => 0

/-- Whether a name may hold the character: ASCII letters, digits, hyphens and underscores. -/
def isNameChar (c : Char) : Bool := isAsciiLetter c || isAsciiDigit c || c == '_' || c == '-'

def startsWithThree (sign : Char) : List Char → Bool
  | a :: b :: c :: rest => a == sign && b == sign && c == sign && atGap rest
  | _ => false

/-- Whether the mark of a document's start or end begins the text. -/
def startsWithDocumentMark (cs : List Char) : Bool :=
  startsWithThree '-' cs || startsWithThree '.' cs

def isAllowed (c : Char) : Bool :=
  let n := c.toNat
  n == 9 || n == 10 || n == 13 || (0x20 ≤ n && n ≤ 0x7E) || n == 0x85 ||
    (0xA0 ≤ n && n ≤ 0xFFFD) || 0x10000 ≤ n

/-- A result with the cursor after it. -/
structure Scanned (α : Type) where
  value : α
  after : Cursor

/-- A scan either succeeds or fails on a line, counted from 0. -/
abbrev Scan (α : Type) := Except Nat α

end PromptScript.Yaml
