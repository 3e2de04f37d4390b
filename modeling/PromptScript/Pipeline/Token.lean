import PromptScript.AtLine
import PromptScript.Text.Blank
import PromptScript.Text.Letter
import PromptScript.Text.Quoted

/-!
# Pipeline.Token

The tokens of the pattern language: words, texts in double quotes, patterns between slashes, and
signs. The characters are read one by one; `advance` says what each of them does in each mode.
-/

namespace PromptScript

inductive Token where
  | word (s : String)
  | text (s : String)
  | pattern (s : String)
  | openBrace
  | closeBrace
  | openParen
  | closeParen
  | comma
  | bar
  | done
  deriving DecidableEq, Repr

def Token.shown : Token → String
  | .word s => "Word(" ++ quoted s ++ ")"
  | .text s => "Str(" ++ quoted s ++ ")"
  | .pattern s => "Regex(" ++ quoted s ++ ")"
  | .openBrace => "LBrace"
  | .closeBrace => "RBrace"
  | .openParen => "LParen"
  | .closeParen => "RParen"
  | .comma => "Comma"
  | .bar => "Pipe"
  | .done => "Eof"

/-- A token with the line it starts on. -/
structure PlacedToken where
  token : Token
  line : Nat
  deriving DecidableEq, Repr

/-- Why a text does not fall into tokens. -/
inductive LexicalFault where
  | unterminatedPattern
  | unterminatedText
  | unterminatedEscape
  | unexpectedCharacter (c : Char)
  deriving DecidableEq, Repr

def LexicalFault.message : LexicalFault → String
  | .unterminatedPattern => "unterminated regex literal"
  | .unterminatedText => "unterminated string literal"
  | .unterminatedEscape => "unterminated escape in string"
  | .unexpectedCharacter c => "unexpected character '" ++ String.singleton c ++ "'"

namespace Token

/-- Whether a word may start with the character. -/
def startsWord (c : Char) : Bool := isLetter c || c == '_'

def continuesWord (c : Char) : Bool := isLetterOrNumber c || c == '_' || c == '-'

/-- What is being read. The characters read so far stand in reverse order. -/
inductive Mode where
  | between
  | word (read : List Char)
  | text (read : List Char)
  /-- After a backslash inside a text. -/
  | escape (read : List Char)
  | pattern (read : List Char)
  /-- After a backslash inside a pattern. -/
  | slash (read : List Char)
  deriving DecidableEq, Repr

def textOf (read : List Char) : String := String.ofList read.reverse

/-- What an escaped character of a text stands for; a backslash before any other character stays. -/
def unescaped (c : Char) : List Char :=
  if c = '"' then ['"']
  else if c = '\\' then ['\\']
  else if c = 'n' then ['\n']
  else if c = 't' then ['\t']
  else ['\\', c]

def start (c : Char) : Except LexicalFault (List Token × Mode) :=
  if isBlank c then .ok ([], .between)
  else
    match c with
    | '/' => .ok ([], .pattern [])
    | '"' => .ok ([], .text [])
    | '\x7b' => .ok ([.openBrace], .between)
    | '\x7d' => .ok ([.closeBrace], .between)
    | '(' => .ok ([.openParen], .between)
    | ')' => .ok ([.closeParen], .between)
    | ',' => .ok ([.comma], .between)
    | '|' => .ok ([.bar], .between)
    | c => if startsWord c then .ok ([], .word [c]) else .error (.unexpectedCharacter c)

/-- What a character does: the tokens that it completes, and the mode after it. -/
def advance (mode : Mode) (c : Char) : Except LexicalFault (List Token × Mode) :=
  match mode with
  | .between => start c
  | .word read =>
    if continuesWord c then .ok ([], .word (c :: read))
    else (start c).map fun (tokens, mode) => (.word (textOf read) :: tokens, mode)
  | .text read =>
    if c = '"' then .ok ([.text (textOf read)], .between)
    else if c = '\\' then .ok ([], .escape read)
    else if c = '\n' then .error .unterminatedText
    else .ok ([], .text (c :: read))
  | .escape read => .ok ([], .text ((unescaped c).reverse ++ read))
  | .pattern read =>
    if c = '/' then .ok ([.pattern (textOf read)], .between)
    else if c = '\n' then .error .unterminatedPattern
    else if c = '\\' then .ok ([], .slash read)
    else .ok ([], .pattern (c :: read))
  | .slash read =>
    if c = '/' then .ok ([], .pattern ('/' :: read))
    else if c = '\n' then .error .unterminatedPattern
    else if c = '\\' then .ok ([], .slash ('\\' :: read))
    else .ok ([], .pattern (c :: '\\' :: read))

/-- The tokens that the end of the text completes. -/
def finish : Mode → Except LexicalFault (List Token)
  | .between => .ok [.done]
  | .word read => .ok [.word (textOf read), .done]
  | .text _ => .error .unterminatedText
  | .escape _ => .error .unterminatedEscape
  | .pattern _ => .error .unterminatedPattern
  | .slash _ => .error .unterminatedPattern

/-- The line after a character. A newline escaped inside a text does not count. -/
def lineAfter (line : Nat) (c : Char) (mode : Mode) : Nat :=
  if c = '\n' ∧ mode = .between then line + 1 else line

/-- The tokens of a text in the given mode and on the given line, or the fault with its line. -/
def scan (mode : Mode) (line : Nat) : List Char → Except (AtLine LexicalFault) (List PlacedToken)
  | [] =>
    match finish mode with
    | .error f => .error ⟨line, f⟩
    | .ok tokens => .ok (tokens.map fun t => ⟨t, line⟩)
  | c :: rest =>
    match advance mode c with
    | .error f => .error ⟨line, f⟩
    | .ok (tokens, mode) =>
      match scan mode (lineAfter line c mode) rest with
      | .error e => .error e
      | .ok others => .ok ((tokens.map fun t => ⟨t, line⟩) ++ others)

/-- The tokens of a text that starts on the given line, up to the mark of its end. -/
def ofText (text : String) (line : Nat) : Except (AtLine LexicalFault) (List PlacedToken) :=
  scan .between line text.toList

end Token

end PromptScript
