import PromptScript.Yaml.Text.Plain
import PromptScript.Yaml.Text.QuotedText
import PromptScript.Yaml.Token.Tag

/-!
# Yaml.Token.Scan

From the characters of a text to its tokens. A key of a mapping is recognised only by the colon
after it, so the token that may turn out to be a key holds back those from it on until that is
settled. Where the text is wrong, the tokens released before are kept: what they say may be wrong
already, and counts first.
-/

namespace PromptScript.Yaml

/-- A place that may turn out to be the start of a key. -/
structure KeyPlace where
  /-- The number of the token that starts there. -/
  number : Nat
  mark : Mark
  /-- Nothing but a key can stand there. -/
  required : Bool

structure Scanner where
  cursor : Cursor
  /-- The column of the current block collection, −1 outside all of them. -/
  indent : Int := -1
  /-- The columns of the enclosing block collections. -/
  outer : List Int := []
  /-- Whether a key may start here. -/
  keyAllowed : Bool := true
  /-- The place that may be a key: one for each open bracket, the innermost first, and one outside
  of all brackets. -/
  keys : List (Option KeyPlace) := [none]
  /-- The tokens that are held back. -/
  held : List PlacedToken := []
  /-- The number of tokens released before. -/
  released : Nat := 0
  ended : Bool := false

namespace Scanner

def inFlow (s : Scanner) : Bool := 1 < s.keys.length

/-- Adds a token that starts at the cursor. -/
def push (s : Scanner) (t : Token) : Scanner :=
  { s with held := s.held ++ [⟨t, s.cursor.mark.line⟩] }

/-- Adds a token before the one with the given number. -/
def insert (s : Scanner) (number : Nat) (t : Token) (line : Nat) : Scanner :=
  let i := number - s.released
  { s with held := s.held.take i ++ ⟨t, line⟩ :: s.held.drop i }

def key (s : Scanner) : Option KeyPlace := s.keys.headD none

def setKey (s : Scanner) (k : Option KeyPlace) : Scanner :=
  { s with keys := k :: s.keys.drop 1 }

def dropKey (s : Scanner) : Scan Scanner :=
  match s.key with
  | some k => if k.required then .error s.cursor.mark.line else .ok (s.setKey none)
  | none => .ok (s.setKey none)

/-- Remembers that a key may start at the cursor. -/
def saveKey (s : Scanner) : Scan Scanner :=
  if s.keyAllowed then
    let mark := s.cursor.mark
    let required := !s.inFlow && s.indent == mark.column
    (s.dropKey).map fun s => s.setKey (some ⟨s.released + s.held.length, mark, required⟩)
  else .ok s

/-- The largest number of characters between the start of a key and its colon. -/
def longestKey : Nat := 1024

/-- Whether a key that starts at the place can no longer end at the cursor. -/
def isStale (s : Scanner) (k : KeyPlace) : Bool :=
  k.mark.line < s.cursor.mark.line || k.mark.index + longestKey < s.cursor.mark.index

def dropStale (s : Scanner) : Scan Scanner :=
  let stale (k : Option KeyPlace) : Bool := k.any s.isStale
  if s.keys.any fun k => stale k && k.any (·.required) then .error s.cursor.mark.line
  else .ok { s with keys := s.keys.map fun k => if stale k then none else k }

/-- Opens a block collection at a column that lies deeper than the current one; its token stands
before the token of the given number, or at the end. -/
def roll (s : Scanner) (column : Int) (number : Option Nat) (t : Token) (line : Nat) : Scanner :=
  if !s.inFlow && s.indent < column then
    let s := { s with outer := s.indent :: s.outer, indent := column }
    s.insert (number.getD (s.released + s.held.length)) t line
  else s

/-- The number of tokens that end a collection, and the columns left, once the text has come back to
a column. -/
def ended? (column : Int) (indent : Int) : List Int → Nat × Int × List Int
  | [] => (0, indent, [])
  | up :: outer =>
    if column < indent then
      let (n, indent, outer) := ended? column up outer
      (n + 1, indent, outer)
    else (0, indent, up :: outer)

def unroll (s : Scanner) (column : Int) : Scanner :=
  if s.inFlow then s
  else
    let (n, indent, outer) := ended? column s.indent s.outer
    { s with
      indent := indent, outer := outer,
      held := s.held ++ List.replicate n ⟨.blockEnd, s.cursor.mark.line⟩ }

/-- Moves on to the next token: past blanks, comments and line breaks. Tabs count as blanks where no
key may start. -/
def toNextFrom (flow comment allowed : Bool) (m : Mark) : List Char → Bool × Cursor
  | [] => (allowed, ⟨m, []⟩)
  | '\r' :: '\n' :: rest => toNextFrom flow false (allowed || !flow) (m.nextLine 2) rest
  | c :: rest =>
    if isBreak c then toNextFrom flow false (allowed || !flow) (m.nextLine 1) rest
    else if comment then toNextFrom flow true allowed m.next rest
    else if c == ' ' || (c == '\t' && (flow || !allowed)) || (c == '\ufeff' && m.index == 0) then
      toNextFrom flow false allowed m.next rest
    else if c == '#' then toNextFrom flow true allowed m.next rest
    else (allowed, ⟨m, c :: rest⟩)

def toNext (s : Scanner) : Scanner :=
  let (allowed, cursor) := toNextFrom s.inFlow false s.keyAllowed s.cursor.mark s.cursor.rest
  { s with keyAllowed := allowed, cursor := cursor }

/-- Takes a token of `n` characters. -/
def take (s : Scanner) (n : Nat) (t : Token) : Scanner :=
  let s := s.push t
  { s with cursor := s.cursor.skip n }

def takeScanned {α : Type} (s : Scanner) (make : α → Token) (r : Scan (Scanned α)) : Scan Scanner :=
  r.map fun r => { s.push (make r.value) with cursor := r.after }

/-- The end of the text. -/
def takeEnd (s : Scanner) : Scan Scanner :=
  let m := s.cursor.mark
  let m := if m.column = 0 then m else m.nextLine 0
  let s := { s with cursor := ⟨m, []⟩ }
  ((s.unroll (-1)).dropKey).map fun s => { s.push .streamEnd with keyAllowed := false, ended := true }

/-- The mark of a document's start or end. -/
def takeDocumentMark (s : Scanner) (t : Token) : Scan Scanner :=
  ((s.unroll (-1)).dropKey).map fun s => { s with keyAllowed := false }.take 3 t

def takeDirective (s : Scanner) : Scan Scanner :=
  match (s.unroll (-1)).dropKey with
  | .error line => .error line
  | .ok s => { s with keyAllowed := false }.takeScanned id (scanDirective s.cursor)

def takeOpening (s : Scanner) (t : Token) : Scan Scanner :=
  s.saveKey.map fun s => { s with keys := none :: s.keys, keyAllowed := true }.take 1 t

def takeClosing (s : Scanner) (t : Token) : Scan Scanner :=
  s.dropKey.map fun s =>
    { s with keys := if s.inFlow then s.keys.drop 1 else s.keys, keyAllowed := false }.take 1 t

def takeComma (s : Scanner) : Scan Scanner :=
  s.dropKey.map fun s => { s with keyAllowed := true }.take 1 .flowEntry

def takeEntry (s : Scanner) : Scan Scanner :=
  let m := s.cursor.mark
  if !s.inFlow && !s.keyAllowed then .error m.line
  else
    ((s.roll m.column none .blockSequenceStart m.line).dropKey).map fun s =>
      { s with keyAllowed := true }.take 1 .blockEntry

def takeKey (s : Scanner) : Scan Scanner :=
  let m := s.cursor.mark
  if !s.inFlow && !s.keyAllowed then .error m.line
  else
    ((s.roll m.column none .blockMappingStart m.line).dropKey).map fun s =>
      { s with keyAllowed := !s.inFlow }.take 1 .key

def takeValue (s : Scanner) : Scan Scanner :=
  let m := s.cursor.mark
  match s.key with
  | some k =>
    let s := s.insert k.number .key k.mark.line
    let s := s.roll k.mark.column (some k.number) .blockMappingStart k.mark.line
    .ok ({ s.setKey none with keyAllowed := false }.take 1 .value)
  | none =>
    if !s.inFlow && !s.keyAllowed then .error m.line
    else
      let s := s.roll m.column none .blockMappingStart m.line
      .ok ({ s with keyAllowed := !s.inFlow }.take 1 .value)

/-- A token that may be a key and after which none may start. -/
def takeNode {α : Type} (s : Scanner) (make : α → Token) (scan : Cursor → Scan (Scanned α)) :
    Scan Scanner :=
  match s.saveKey with
  | .error line => .error line
  | .ok s => { s with keyAllowed := false }.takeScanned make (scan s.cursor)

/-- A plain scalar. A key may start after it if a line break follows. -/
def takePlain (s : Scanner) : Scan Scanner :=
  match s.saveKey with
  | .error line => .error line
  | .ok s =>
    (scanPlain s.inFlow (s.indent + 1) s.cursor).map fun r =>
      { s.push (.scalar r.value.text .plain) with cursor := r.after, keyAllowed := r.value.broken }

def takeBlock (s : Scanner) (literal : Bool) : Scan Scanner :=
  match s.dropKey with
  | .error line => .error line
  | .ok s =>
    { s with keyAllowed := true }.takeScanned (.scalar · .block)
      (scanBlock literal s.indent s.cursor)

/-- Whether plain text may start with the character. Hyphens, and outside brackets question marks
and colons, may if no gap follows. -/
def startsPlain (flow : Bool) (c : Char) (rest : List Char) : Bool :=
  if c == '-' then
    match rest with
    | d :: _ => !isGap d
    | [] => true
  else if c == '?' || c == ':' then !flow && !atGap rest
  else
    !(isGap c || isFlowSign c ||
      ['#', '&', '*', '!', '|', '>', '\'', '"', '%', '@', '\x60'].contains c)

/-- Takes the token that begins with the character `c`. -/
def takeAt (s : Scanner) (c : Char) (rest : List Char) : Scan Scanner :=
  let cs := c :: rest
  let first := s.cursor.mark.column == 0
  if first && c == '%' then s.takeDirective
  else if first && startsWithThree '-' cs then s.takeDocumentMark .documentStart
  else if first && startsWithThree '.' cs then s.takeDocumentMark .documentEnd
  else if c == '[' then s.takeOpening .flowSequenceStart
  else if c == '{' then s.takeOpening .flowMappingStart
  else if c == ']' then s.takeClosing .flowSequenceEnd
  else if c == '}' then s.takeClosing .flowMappingEnd
  else if c == ',' then s.takeComma
  else if c == '-' && atGap rest then s.takeEntry
  else if c == '?' && (s.inFlow || atGap rest) then s.takeKey
  else if c == ':' && (s.inFlow || atGap rest) then s.takeValue
  else if c == '*' then s.takeNode .aliasName scanName
  else if c == '&' then s.takeNode .anchor scanName
  else if c == '!' then s.takeNode id (scanTag s.inFlow)
  else if c == '|' && !s.inFlow then s.takeBlock true
  else if c == '>' && !s.inFlow then s.takeBlock false
  else if c == '\'' then s.takeNode (.scalar · .quoted) (scanQuoted true)
  else if c == '"' then s.takeNode (.scalar · .quoted) (scanQuoted false)
  else if startsPlain s.inFlow c rest then s.takePlain
  else .error s.cursor.mark.line

def fetch (s : Scanner) : Scan Scanner :=
  match s.toNext.dropStale with
  | .error line => .error line
  | .ok s =>
    let s := s.unroll s.cursor.mark.column
    match s.cursor.rest with
    | [] => s.takeEnd
    | c :: rest => s.takeAt c rest

/-- The tokens that no possible key holds back, and the state without them. -/
def release (s : Scanner) : List PlacedToken × Scanner :=
  let n := s.keys.foldl
    (fun n k => match k with
      | some k => min n (k.number - s.released)
      | none => n) s.held.length
  (s.held.take n, { s with held := s.held.drop n, released := s.released + n })

/-- Scans on for at most `fuel` tokens. -/
def run : Nat → Scanner → List PlacedToken × Option Nat
  | 0, _ => ([], none)
  | fuel + 1, s =>
    match s.fetch with
    | .error line => ([], some line)
    | .ok s =>
      match s.dropStale with
      | .error line => ([], some line)
      | .ok s =>
        let (tokens, s) := s.release
        if s.ended then (tokens, none)
        else
          let (more, fault) := run fuel s
          (tokens ++ more, fault)

end Scanner

/-- The tokens of a text. If the text is wrong, these are the tokens before the fault, and the
line of the fault counted from 0 comes with them. A character that no text may hold counts as a
fault at the very start. -/
def scan (cs : List Char) : List PlacedToken × Option Nat :=
  if !cs.all isAllowed then ([], some 0) else
  let start : PlacedToken := ⟨.streamStart, 0⟩
  let (tokens, fault) := Scanner.run (cs.length + 2) { cursor := ⟨{}, cs⟩, released := 1 }
  (start :: tokens, fault)

end PromptScript.Yaml
