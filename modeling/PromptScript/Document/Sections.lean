import PromptScript.Text.Blank
import PromptScript.Text.Lines

/-!
# Document.Sections

A document is a header between two delimiter lines, followed by a body. A document that does not
begin with a delimiter is all body. Blanks at the end of a delimiter line do not count.
-/

namespace PromptScript

structure Sections where
  /-- The lines between the delimiters, if the document has a header. -/
  header : Option (List Char)
  body : List Char
  /-- The line number of the body's first line, counted from 1. -/
  bodyLine : Nat
  deriving DecidableEq, Repr

namespace Sections

/-- The line number of a header's first line. -/
def firstHeaderLine : Nat := 2

/-- The line number of the header's first line, 0 without a header. -/
def headerLine (s : Sections) : Nat := if s.header.isSome then firstHeaderLine else 0

/-- Whether a line is a delimiter. -/
def isDelimiter (line : List Char) : Bool := trimEnd line == ['-', '-', '-']

/-- The lines before the first delimiter and the lines after it. -/
def untilDelimiter? : List (List Char) → Option (List (List Char) × List (List Char))
  | [] => none
  | line :: rest =>
    if isDelimiter line then some ([], rest)
    else (untilDelimiter? rest).map fun (before, after) => (line :: before, after)

/-- Cuts a document; `none` if its header has no end. -/
def ofText? (text : List Char) : Option Sections :=
  match linesWithEnds text with
  | [] => some ⟨none, text, 1⟩
  | first :: rest =>
    if isDelimiter first then
      (untilDelimiter? rest).map fun (header, body) =>
        ⟨some header.flatten, body.flatten, firstHeaderLine + header.length + 1⟩
    else some ⟨none, text, 1⟩

end Sections

end PromptScript
