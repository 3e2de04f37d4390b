import PromptScript.Text.CodePoints

/-!
# Toml.Text

Texts in quotes. Between double quotes a backslash starts an escape, between single quotes every
character stands for itself; three quotes allow for line breaks.
-/

namespace PromptScript.Toml

/-- What was read, with the text after it. -/
abbrev Reading (α : Type) := Option (α × List Char)

def isGap (c : Char) : Bool := c == ' ' || c == '\t'

def isTextChar (c : Char) : Bool := c == '\t' || (' ' ≤ c && c ≠ '\x7f')

/-- The character of a code point that is written with a number of hexadecimal digits. -/
def codePoint? (width : Nat) (cs : List Char) : Reading Char :=
  let digits := cs.take width
  if digits.length = width ∧ digits.all fun c => (hexDigit? c).isSome then
    (charOf? (hexNumber digits)).map fun c => (c, cs.drop width)
  else none

/-- The character that an escape stands for, after the backslash. -/
def escape? : List Char → Reading Char
  | [] => none
  | c :: rest =>
    match c with
    | 'b' => some ('\x08', rest)
    | 't' => some ('\t', rest)
    | 'n' => some ('\n', rest)
    | 'f' => some ('\x0c', rest)
    | 'r' => some ('\r', rest)
    | '"' => some ('"', rest)
    | '\\' => some ('\\', rest)
    | 'u' => codePoint? 4 rest
    | 'U' => codePoint? 8 rest
    | _ => none

/-- The text after one line break. -/
def afterBreak? : List Char → Option (List Char)
  | '\n' :: rest => some rest
  | '\r' :: '\n' :: rest => some rest
  | _ => none

/-- The text without blanks and line breaks at its start. -/
def afterBlankLines : List Char → List Char
  | [] => []
  | '\r' :: '\n' :: rest => afterBlankLines rest
  | c :: rest => if c = '\n' ∨ isGap c then afterBlankLines rest else c :: rest

/-- The text after a backslash at the end of a line: blanks and line breaks are passed over. -/
def afterContinuation? (cs : List Char) : Option (List Char) :=
  (afterBreak? (cs.dropWhile isGap)).map afterBlankLines

def shortText (quote : Char) (read : List Char) : Nat → List Char → Reading (List Char)
  | 0, _ => none
  | _, [] => none
  | fuel + 1, c :: rest =>
    if c = quote then some (read.reverse, rest)
    else if c = '\\' ∧ quote = '"' then
      match escape? rest with
      | none => none
      | some (d, rest) => shortText quote (d :: read) fuel rest
    else if isTextChar c then shortText quote (c :: read) fuel rest
    else none

/-- A text up to its three closing quotes; one or two quotes before those belong to it. -/
def longText (quote : Char) (read : List Char) : Nat → List Char → Reading (List Char)
  | 0, _ => none
  | _, [] => none
  | fuel + 1, c :: rest =>
    if c = quote then
      let quotes := (c :: rest).takeWhile (· = quote)
      let after := (c :: rest).dropWhile (· = quote)
      if quotes.length < 3 then longText quote (quotes ++ read) fuel after
      else if quotes.length ≤ 5 then some ((quotes.drop 3 ++ read).reverse, after)
      else none
    else if c = '\\' ∧ quote = '"' then
      match afterContinuation? rest with
      | some rest => longText quote read fuel rest
      | none =>
        match escape? rest with
        | none => none
        | some (d, rest) => longText quote (d :: read) fuel rest
    else
      match afterBreak? (c :: rest) with
      | some rest => longText quote ('\n' :: read) fuel rest
      | none => if isTextChar c then longText quote (c :: read) fuel rest else none

/-- The text in quotes at the start; a line break right after three quotes does not belong to it. -/
def quotedText? : List Char → Reading (List Char)
  | [] => none
  | quote :: rest =>
    match rest with
    | b :: c :: inside =>
      if b = quote ∧ c = quote then
        longText quote [] (inside.length + 1) ((afterBreak? inside).getD inside)
      else shortText quote [] (rest.length + 1) rest
    | _ => shortText quote [] (rest.length + 1) rest

end PromptScript.Toml
