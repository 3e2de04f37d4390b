import PromptScript.Text.Property

/-!
# Text.Letter

The character classes that words are made of: letters, numbers and word characters. ASCII is
decided by comparison alone; the tables of the character standard decide the rest.
-/

namespace PromptScript

def isAsciiLetter (c : Char) : Bool := ('a' ≤ c && c ≤ 'z') || ('A' ≤ c && c ≤ 'Z')

def isAsciiDigit (c : Char) : Bool := '0' ≤ c && c ≤ '9'

def isLetter (c : Char) : Bool :=
  if c.toNat < 128 then isAsciiLetter c else Property.alphabetic.contains c

/-- Whether the character is a number of any kind: digits, letter-like numbers, fractions. -/
def isNumber (c : Char) : Bool :=
  if c.toNat < 128 then isAsciiDigit c
  else Category.decimalDigit.contains c || Category.letterNumber.contains c ||
    Category.otherNumber.contains c

def isLetterOrNumber (c : Char) : Bool := isLetter c || isNumber c

def isDecimalDigit (c : Char) : Bool :=
  if c.toNat < 128 then isAsciiDigit c else Category.decimalDigit.contains c

/-- Whether the character belongs to a word: letters, marks, decimal digits, connectors such as the
underscore, and the characters that control joining. -/
def isWordChar (c : Char) : Bool :=
  if c.toNat < 128 then isAsciiLetter c || isAsciiDigit c || c == '_'
  else Property.alphabetic.contains c || Category.nonspacingMark.contains c ||
    Category.spacingMark.contains c || Category.enclosingMark.contains c ||
    Category.decimalDigit.contains c || Category.connector.contains c ||
    Property.joinControl.contains c

/-- The character with an ASCII upper-case letter replaced by its lower-case form. -/
def asciiLower (c : Char) : Char :=
  if 'A' ≤ c ∧ c ≤ 'Z' then Char.ofNat (c.toNat + 32) else c

end PromptScript
