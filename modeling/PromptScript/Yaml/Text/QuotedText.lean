import PromptScript.Text.CodePoints
import PromptScript.Yaml.Text.Gap

/-!
# Yaml.Text.QuotedText

Text in single or double quotes. In single quotes a quote is written twice; in double quotes a
backslash introduces an escape.
-/

namespace PromptScript.Yaml

/-- What an escape of a single letter stands for. -/
def simpleEscape? (c : Char) : Option Char :=
  match c with
  | '0' => some '\x00'
  | 'a' => some '\x07'
  | 'b' => some '\x08'
  | 't' => some '\t'
  | '\t' => some '\t'
  | 'n' => some '\n'
  | 'v' => some '\x0b'
  | 'f' => some '\x0c'
  | 'r' => some '\r'
  | 'e' => some '\x1b'
  | ' ' => some ' '
  | '"' => some '"'
  | '/' => some '/'
  | '\\' => some '\\'
  | 'N' => some '\x85'
  | '_' => some '\xa0'
  | 'L' => some '\u2028'
  | 'P' => some '\u2029'
  | _ => none

/-- The number of hexadecimal digits that an escape of a code point takes. -/
def codeWidth? (c : Char) : Option Nat :=
  match c with
  | 'x' => some 2
  | 'u' => some 4
  | 'U' => some 8
  | _ => none

inductive QuoteMode where
  | content
  /-- After a quote inside single quotes that may be the first of two. -/
  | quote
  /-- After a backslash. -/
  | escape
  /-- Inside a code point of which `left` digits are to come. -/
  | code (left value : Nat)
  deriving DecidableEq, Repr

/-- Reads on inside quotes. `read` is the text so far in reverse order and `gap` what follows it. -/
def quotedFrom (single : Bool) (m : Mark) (read : List Char) (gap : Gap) (mode : QuoteMode) :
    List Char → Scan (Scanned (List Char))
  | [] =>
    match mode with
    | .quote => .ok ⟨read.reverse, ⟨m, []⟩⟩
    | _ => .error m.line
  | '\r' :: '\n' :: rest =>
    match mode with
    | .content => quotedFrom single (m.nextLine 2) read (gap.addBreak '\n') .content rest
    | .escape => quotedFrom single (m.nextLine 2) read (.breaks [] []) .content rest
    | .quote => .ok ⟨read.reverse, ⟨m, '\r' :: '\n' :: rest⟩⟩
    | .code .. => .error m.line
  | c :: rest =>
    match mode with
    | .content =>
      if isBreak c then quotedFrom single (m.nextLine 1) read (gap.addBreak c) .content rest
      else if isGap c then quotedFrom single m.next read (gap.addBlank c) .content rest
      else if m.column == 0 && startsWithDocumentMark (c :: rest) then .error m.line
      else if single && c == '\'' then quotedFrom single m.next (gap.folded ++ read) .none .quote rest
      else if !single && c == '"' then .ok ⟨(gap.folded ++ read).reverse, ⟨m.next, rest⟩⟩
      else if !single && c == '\\' then
        quotedFrom single m.next (gap.folded ++ read) .none .escape rest
      else quotedFrom single m.next (c :: (gap.folded ++ read)) .none .content rest
    | .quote =>
      if c = '\'' then quotedFrom single m.next ('\'' :: read) .none .content rest
      else .ok ⟨read.reverse, ⟨m, c :: rest⟩⟩
    | .escape =>
      if isBreak c then quotedFrom single (m.nextLine 1) read (.breaks [] []) .content rest
      else
        match simpleEscape? c with
        | some d => quotedFrom single m.next (d :: read) .none .content rest
        | none =>
          match codeWidth? c with
          | some n => quotedFrom single m.next read .none (.code n 0) rest
          | none => .error m.line
    | .code left value =>
      match hexDigit? c with
      | none => .error m.line
      | some d =>
        let value := 16 * value + d
        if 1 < left then quotedFrom single m.next read .none (.code (left - 1) value) rest
        else if h : value.isValidChar then
          quotedFrom single m.next (Char.ofNatAux value h :: read) .none .content rest
        else .error m.line

/-- The text in quotes at a cursor, which stands at the opening quote. -/
def scanQuoted (single : Bool) (c : Cursor) : Scan (Scanned (List Char)) :=
  quotedFrom single c.mark.next [] .none .content (c.rest.drop 1)

end PromptScript.Yaml
