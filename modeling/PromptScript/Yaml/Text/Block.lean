import PromptScript.Yaml.Mark

/-!
# Yaml.Text.Block

Text in indented lines below an indicator. A literal text keeps its line breaks; a folded one joins
lines that neither start with a blank nor are separated by empty lines.
-/

namespace PromptScript.Yaml

/-- What becomes of the line breaks at the end of a block. -/
inductive Chomping where
  /-- All are dropped. -/
  | strip
  /-- The first is kept. -/
  | clip
  /-- All are kept. -/
  | keep
  deriving DecidableEq, Repr

/-- The header of a block: its chomping, and by how much the text is indented if that is said. -/
structure BlockHeader where
  chomping : Chomping := .clip
  increment : Option Nat := none

def chompingOf? (c : Char) : Option Chomping :=
  if c = '+' then some .keep else if c = '-' then some .strip else none

def incrementOf (h : BlockHeader) (cs : List Char) : Option (BlockHeader × List Char) :=
  match cs with
  | c :: rest =>
    if isAsciiDigit c then
      if c = '0' then none else some ({ h with increment := some (c.toNat - '0'.toNat) }, rest)
    else some (h, cs)
  | [] => some (h, [])

/-- Reads the signs of a header: a chomping and an indentation in either order. -/
def blockHeader? (cs : List Char) : Option (BlockHeader × List Char) :=
  match cs with
  | [] => some ({}, [])
  | c :: rest =>
    match chompingOf? c with
    | some k => incrementOf { chomping := k } rest
    | none =>
      match incrementOf {} cs with
      | none => none
      | some (h, d :: rest) =>
        if h.increment.isSome then
          match chompingOf? d with
          | some k => some ({ h with chomping := k }, rest)
          | none => some (h, d :: rest)
        else some (h, d :: rest)
      | some (h, []) => some (h, [])

/-- How far a block has been read. All texts are in reverse order. -/
structure BlockReading where
  /-- The column of the text, 0 as long as it is not known. -/
  indent : Nat
  /-- The largest column met while the indentation is not known. -/
  deepest : Nat := 0
  /-- Whether the characters of a line are being read, and not what stands before them. -/
  inLine : Bool := false
  text : List Char := []
  /-- The break that ended the last line. -/
  lineBreak : List Char := []
  /-- The breaks of the empty lines after it. -/
  emptyLines : List Char := []
  /-- Whether the last line started with a blank. -/
  afterBlank : Bool := false

namespace BlockReading

/-- The state once the column of the text is known. It is the deepest column met, but deeper than
the collection that holds the block. -/
def settled (parent : Int) (r : BlockReading) : BlockReading :=
  if r.indent = 0 then { r with indent := max (max r.deepest (parent + 1).toNat) 1 } else r

/-- The state once the first character of a line is met. -/
def startLine (literal : Bool) (c : Char) (r : BlockReading) : BlockReading :=
  let joined := !literal && r.lineBreak == ['\n'] && !r.afterBlank && !isGap c
  let text :=
    if joined then (if r.emptyLines.isEmpty then ' ' :: r.text else r.emptyLines ++ r.text)
    else r.emptyLines ++ (r.lineBreak ++ r.text)
  { r with
    inLine := true, text := c :: text, lineBreak := [], emptyLines := [], afterBlank := isGap c }

def finish (chomping : Chomping) (r : BlockReading) : List Char :=
  match chomping with
  | .strip => r.text.reverse
  | .clip => (r.lineBreak ++ r.text).reverse
  | .keep => (r.emptyLines ++ (r.lineBreak ++ r.text)).reverse

end BlockReading

/-- Reads on in a block. `parent` is the indentation of the collection that holds it. -/
def blockFrom (literal : Bool) (chomping : Chomping) (parent : Int) (m : Mark)
    (r : BlockReading) : List Char → Scan (Scanned (List Char))
  | [] => .ok ⟨r.finish chomping, ⟨m, []⟩⟩
  | '\r' :: '\n' :: rest =>
    if r.inLine then
      blockFrom literal chomping parent (m.nextLine 2)
        { r with inLine := false, lineBreak := ['\n'] } rest
    else
      blockFrom literal chomping parent (m.nextLine 2)
        { r with deepest := max r.deepest m.column, emptyLines := '\n' :: r.emptyLines } rest
  | c :: rest =>
    if r.inLine then
      if isBreak c then
        blockFrom literal chomping parent (m.nextLine 1)
          { r with inLine := false, lineBreak := breakText c } rest
      else blockFrom literal chomping parent m.next { r with text := c :: r.text } rest
    else if (r.indent == 0 || m.column < r.indent) && c == ' ' then
      blockFrom literal chomping parent m.next r rest
    else if (r.indent == 0 || m.column < r.indent) && c == '\t' then .error m.line
    else if isBreak c then
      blockFrom literal chomping parent (m.nextLine 1)
        { r with deepest := max r.deepest m.column, emptyLines := breakText c ++ r.emptyLines } rest
    else
      let r := { r with deepest := max r.deepest m.column }.settled parent
      if m.column = r.indent then
        blockFrom literal chomping parent m.next (r.startLine literal c) rest
      else .ok ⟨r.finish chomping, ⟨m, c :: rest⟩⟩

/-- The cursor after the blanks at its start. -/
def skipGaps (c : Cursor) : Cursor := c.skip (c.rest.takeWhile isGap).length

/-- The cursor at the end of the line if only a comment is left of it. -/
def skipComment (c : Cursor) : Cursor :=
  match c.rest with
  | '#' :: _ => c.skip (c.rest.takeWhile fun d => !isBreak d).length
  | _ => c

/-- The cursor after the line break at its start, if there is one. -/
def skipBreak (c : Cursor) : Cursor :=
  match breakLength c.rest with
  | 0 => c
  | n => ⟨c.mark.nextLine n, c.rest.drop n⟩

/-- The cursor on the next line, if blanks and a comment are all that is left of this one. -/
def endLine (c : Cursor) : Scan Cursor :=
  let c := skipComment (skipGaps c)
  match c.rest with
  | [] => .ok c
  | d :: _ => if isBreak d then .ok (skipBreak c) else .error c.mark.line

def scanBlock (literal : Bool) (parent : Int) (c : Cursor) : Scan (Scanned (List Char)) :=
  match blockHeader? (c.rest.drop 1) with
  | none => .error c.mark.line
  | some (h, rest) =>
    match endLine (c.skip (c.rest.length - rest.length)) with
    | .error line => .error line
    | .ok start =>
      let indent :=
        match h.increment with
        | none => 0
        | some n => (max parent 0).toNat + n
      blockFrom literal h.chomping parent start.mark { indent := indent } start.rest

end PromptScript.Yaml
