import PromptScript.Yaml.Text.Gap

/-!
# Yaml.Text.Plain

Plain text: without quotes, ending at an indicator, at a comment, or where the indentation ends.
-/

namespace PromptScript.Yaml

/-- Whether a sign has a meaning of its own inside brackets. -/
def isFlowSign (c : Char) : Bool :=
  c == ',' || c == '[' || c == ']' || c == '{' || c == '}'

/-- A plain text and whether a line break follows it. -/
structure PlainText where
  text : List Char
  broken : Bool

/-- Whether plain text ends at the character `c` that stands before `rest`. A question mark after a
colon is refused inside brackets, like the signs that have a meaning there. -/
def endsPlain (flow : Bool) (c : Char) (rest : List Char) : Bool :=
  (c == ':' && atGap rest) || (flow && isFlowSign c)

/-- Whether a colon stands where it neither belongs to the text nor ends it. -/
def isStrayColon (flow : Bool) (c : Char) (rest : List Char) : Bool :=
  flow && c == ':' &&
    match rest with
    | d :: _ => isFlowSign d || d == '?'
    | [] => false

/-- Reads on in a plain text. `read` is the text so far in reverse order and `gap` what follows it;
`indent` is the least column of a line that belongs to the text. -/
def plainFrom (flow : Bool) (indent : Int) (m : Mark) (read : List Char) (gap : Gap) :
    List Char → Scan (Scanned PlainText)
  | [] => .ok ⟨⟨read.reverse, gap.isBroken⟩, ⟨m, []⟩⟩
  | '\r' :: '\n' :: rest => plainFrom flow indent (m.nextLine 2) read (gap.addBreak '\n') rest
  | c :: rest =>
    if isBreak c then plainFrom flow indent (m.nextLine 1) read (gap.addBreak c) rest
    else if isGap c then
      if gap.isBroken ∧ m.column < indent ∧ c = '\t' then .error m.line
      else plainFrom flow indent m.next read (gap.addBlank c) rest
    else if (!flow && m.column < indent && gap ≠ .none) ||
        (m.column == 0 && startsWithDocumentMark (c :: rest)) || (c == '#' && gap ≠ .none) then
      .ok ⟨⟨read.reverse, gap.isBroken⟩, ⟨m, c :: rest⟩⟩
    else if isStrayColon flow c rest then .error m.line
    else if endsPlain flow c rest then
      .ok ⟨⟨read.reverse, gap.isBroken⟩, ⟨m, c :: rest⟩⟩
    else plainFrom flow indent m.next (c :: (gap.folded ++ read)) .none rest

def scanPlain (flow : Bool) (indent : Int) (c : Cursor) : Scan (Scanned PlainText) :=
  plainFrom flow indent c.mark [] .none c.rest

end PromptScript.Yaml
