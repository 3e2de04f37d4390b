import PromptScript.Text.Property

/-!
# Text.Quoted

Text between double quotes, as messages and printed pipelines show it: quotes, backslashes and
the common control characters are escaped by a backslash, and characters that have no visible form
of their own are written by their code point.
-/

namespace PromptScript

/-- Whether a character is shown as it is: it has a form, and is no blank but the space. -/
def isPrintable (c : Char) : Bool :=
  if c.toNat < 127 then 32 ≤ c.toNat
  else !Property.isFormless c && !Category.space.contains c && !Property.isExtending c

def hexText (n : Nat) : List Char := Nat.toDigits 16 n

def quotedChar (c : Char) : List Char :=
  if c = '"' then ['\\', '"']
  else if c = '\\' then ['\\', '\\']
  else if c = '\n' then ['\\', 'n']
  else if c = '\t' then ['\\', 't']
  else if c = '\r' then ['\\', 'r']
  else if c = '\x00' then ['\\', '0']
  else if isPrintable c then [c]
  else ['\\', 'u', '\x7b'] ++ hexText c.toNat ++ ['\x7d']

def quoted (s : String) : String := String.ofList ('"' :: s.toList.flatMap quotedChar ++ ['"'])

end PromptScript
