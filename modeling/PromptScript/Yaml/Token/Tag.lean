import PromptScript.Text.CodePoints
import PromptScript.Yaml.Text.Block
import PromptScript.Yaml.Token

/-!
# Yaml.Token.Tag

Tags, anchors and directives.
-/

namespace PromptScript.Yaml

/-- Whether a tag may hold the character; `wide` allows brackets and commas too. -/
def isTagChar (wide : Bool) (c : Char) : Bool :=
  isNameChar c ||
    [';', '/', '?', ':', '@', '&', '=', '+', '$', '.', '%', '!', '~', '*', '\'', '(', ')'].contains
      c ||
    (wide && (c == ',' || c == '[' || c == ']'))

/-- The value of an octet written as a percent sign with two digits, and what follows. -/
def escapedOctet? : List Char → Option (Nat × List Char)
  | '%' :: a :: b :: rest =>
    match hexDigit? a, hexDigit? b with
    | some x, some y => some (16 * x + y, rest)
    | _, _ => none
  | _ => none

/-- The number of octets of a character whose first octet is given, with the bits of the first that
count. -/
def octetCount? (first : Nat) : Option (Nat × Nat) :=
  if first < 0x80 then some (1, first)
  else if first / 0x20 = 6 then some (2, first % 0x20)
  else if first / 0x10 = 14 then some (3, first % 0x10)
  else if first / 0x08 = 30 then some (4, first % 0x08)
  else none

/-- The value of the bits so far and of `n` further octets. -/
def furtherOctets? : Nat → Nat → List Char → Option (Nat × List Char)
  | 0, value, cs => some (value, cs)
  | n + 1, value, cs =>
    match escapedOctet? cs with
    | some (octet, rest) =>
      if octet / 0x40 = 2 then furtherOctets? n (0x40 * value + octet % 0x40) rest else none
    | none => none

/-- A character written by its octets. -/
def escapedChar? (cs : List Char) : Option (Char × List Char) :=
  match escapedOctet? cs with
  | none => none
  | some (first, rest) =>
    match octetCount? first with
    | none => none
    | some (n, bits) =>
      (furtherOctets? (n - 1) bits rest).map fun (value, rest) => (Char.ofNat value, rest)

/-- The text of a tag with its escapes resolved. At most `fuel` characters are read. -/
def tagTextFrom? (wide : Bool) : Nat → List Char → Option (List Char × List Char)
  | 0, cs => some ([], cs)
  | _ + 1, [] => some ([], [])
  | fuel + 1, c :: rest =>
    if c = '%' then
      match escapedChar? (c :: rest) with
      | none => none
      | some (d, rest) =>
        (tagTextFrom? wide fuel rest).map fun (text, after) => (d :: text, after)
    else if isTagChar wide c then
      (tagTextFrom? wide fuel rest).map fun (text, after) => (c :: text, after)
    else some ([], c :: rest)

def tagText? (wide : Bool) (cs : List Char) : Option (List Char × List Char) :=
  tagTextFrom? wide (cs.length + 1) cs

/-- A handle: an exclamation mark, or a name between two. `none` if there is no mark at all. -/
def handle? : List Char → Option (List Char × List Char)
  | '!' :: rest =>
    let name := rest.takeWhile isNameChar
    match rest.dropWhile isNameChar with
    | '!' :: after => some ('!' :: name ++ ['!'], after)
    | after => some ('!' :: name, after)
  | _ => none

def isClosedHandle (handle : List Char) : Bool := 1 < handle.length && handle.getLast? == some '!'

/-- Whether a tag may end where the text goes on. -/
def endsTag (flow : Bool) (cs : List Char) : Bool :=
  atGap cs ||
    match cs with
    | c :: _ => flow && c == ','
    | [] => true

/-- The tag at the start of a text, in its parts, and what follows. -/
def tagToken? (cs : List Char) : Option (Token × List Char) :=
  match cs with
  | '!' :: '<' :: rest =>
    match tagText? true rest with
    | some ([], _) => none
    | some (text, '>' :: after) => some (.tag [] text, after)
    | _ => none
  | _ =>
    match handle? cs with
    | none => none
    | some (handle, rest) =>
      if isClosedHandle handle then
        match tagText? false rest with
        | some ([], _) => none
        | some (text, after) => some (.tag handle text, after)
        | none => none
      else
        (tagText? false rest).map fun (text, after) =>
          match handle.drop 1 ++ text with
          | [] => (.tag [] ['!'], after)
          | suffix => (.tag ['!'] suffix, after)

def scanTag (flow : Bool) (c : Cursor) : Scan (Scanned Token) :=
  match tagToken? c.rest with
  | some (t, after) =>
    if endsTag flow after then .ok ⟨t, c.skip (c.rest.length - after.length)⟩
    else .error c.mark.line
  | none => .error c.mark.line

/-- Whether a name of an anchor may end where the text goes on. -/
def endsName (cs : List Char) : Bool :=
  atGap cs ||
    match cs with
    | c :: _ => ['?', ':', ',', ']', '\x7d', '%', '@', '\x60'].contains c
    | [] => true

/-- The name of an anchor at a cursor, which stands at the indicator. -/
def scanName (c : Cursor) : Scan (Scanned (List Char)) :=
  let name := (c.rest.drop 1).takeWhile isNameChar
  let after := c.skip (name.length + 1)
  if name ≠ [] ∧ endsName after.rest then .ok ⟨name, after⟩ else .error c.mark.line

def numberOf (digits : List Char) : Nat :=
  digits.foldl (fun n d => 10 * n + (d.toNat - '0'.toNat)) 0

/-- A number of a version, of at most nine digits. -/
def versionNumber? (cs : List Char) : Option (Nat × List Char) :=
  let digits := cs.takeWhile isAsciiDigit
  if digits = [] ∨ 9 < digits.length then none
  else some (numberOf digits, cs.drop digits.length)

def versionDirective? (cs : List Char) : Option (Token × List Char) :=
  match versionNumber? (cs.dropWhile isGap) with
  | some (major, '.' :: rest) =>
    (versionNumber? rest).map fun (minor, after) => (.versionDirective major minor, after)
  | _ => none

def tagDirective? (cs : List Char) : Option (Token × List Char) :=
  match handle? (cs.dropWhile isGap) with
  | some (handle, c :: rest) =>
    if (isClosedHandle handle || handle == ['!']) && isGap c then
      match tagText? true (rest.dropWhile isGap) with
      | some ([], _) => none
      | some (start, after) => if atGap after then some (.tagDirective handle start, after) else none
      | none => none
    else none
  | _ => none

def scanDirective (c : Cursor) : Scan (Scanned Token) :=
  let name := (c.rest.drop 1).takeWhile isNameChar
  let rest := c.rest.drop (name.length + 1)
  let found :=
    if !atGap rest then none
    else if name = "YAML".toList then versionDirective? rest
    else if name = "TAG".toList then tagDirective? rest
    else none
  match found with
  | none => .error c.mark.line
  | some (t, after) =>
    match endLine (c.skip (c.rest.length - after.length)) with
    | .ok c => .ok ⟨t, c⟩
    | .error line => .error line

end PromptScript.Yaml
