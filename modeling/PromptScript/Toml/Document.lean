import PromptScript.Toml.Scalar
import PromptScript.Toml.Text

/-!
# Toml.Document

Reading of TOML documents. Where the text is at fault is not told.
-/

namespace PromptScript.Toml

/-- How deep values may be nested, and one more than the parts that a key may have. -/
def depthLimit : Nat := 80

/-- Whether the character may stand in a key without quotes. -/
def isKeyChar (c : Char) : Bool := isAsciiLetter c || isAsciiDigit c || c == '-' || c == '_'

def keyPart? (cs : List Char) : Reading String :=
  match cs with
  | [] => none
  | c :: rest =>
    if c = '"' ∨ c = '\'' then
      (shortText c [] (rest.length + 1) rest).map fun (part, rest) => (String.ofList part, rest)
    else
      let part := cs.takeWhile isKeyChar
      if part.isEmpty then none else some (String.ofList part, cs.drop part.length)

/-- The parts of a key, with a dot between each two and blanks around them; at most so many. -/
def key? : Nat → List Char → Reading (List String)
  | 0, _ => none
  | parts + 1, cs =>
    match keyPart? (cs.dropWhile isGap) with
    | none => none
    | some (part, rest) =>
      match rest.dropWhile isGap with
      | '.' :: rest => (key? parts rest).map fun (after, rest) => (part :: after, rest)
      | rest => some ([part], rest)

def keyAt? (cs : List Char) : Reading (List String) := key? (depthLimit - 1) cs

/-- The text after blanks, line breaks and comments. -/
def afterIdle? (comment : Bool) : List Char → Option (List Char)
  | [] => some []
  | '\r' :: '\n' :: rest => afterIdle? false rest
  | c :: rest =>
    if c = '\n' then afterIdle? false rest
    else if comment then if isTextChar c then afterIdle? true rest else none
    else if isGap c then afterIdle? false rest
    else if c = '#' then afterIdle? true rest
    else some (c :: rest)

def pair? (value : List Char → Reading Value) (cs : List Char) : Reading (List String × Value) :=
  match keyAt? cs with
  | some (key, '=' :: rest) =>
    (value (rest.dropWhile isGap)).map fun (v, rest) => ((key, v), rest.dropWhile isGap)
  | _ => none

/-- The values up to the end of a list; the last one may be followed by a comma. -/
def listItems (value : List Char → Reading Value) : Nat → List Char → Reading (List Value)
  | 0, _ => none
  | fuel + 1, cs =>
    match afterIdle? false cs with
    | none => none
    | some (']' :: rest) => some ([], rest)
    | some cs =>
      match value cs with
      | none => none
      | some (v, rest) =>
        match afterIdle? false rest with
        | some (']' :: rest) => some ([v], rest)
        | some (',' :: rest) =>
          (listItems value fuel rest).map fun (items, rest) => (v :: items, rest)
        | _ => none

/-- The keys with their values up to the end of a table in braces; there is one after each comma. -/
def tablePairs (value : List Char → Reading Value) :
    Nat → List Char → Reading (List (List String × Value))
  | 0, _ => none
  | fuel + 1, cs =>
    match pair? value cs with
    | some (p, '\x7d' :: rest) => some ([p], rest)
    | some (p, ',' :: rest) =>
      (tablePairs value fuel rest).map fun (pairs, rest) => (p :: pairs, rest)
    | _ => none

/-- A table in braces, after the opening one. -/
def inlineTable (value : List Char → Reading Value) (cs : List Char) : Reading Value :=
  match cs.dropWhile isGap with
  | '\x7d' :: rest => some (.table .inline [], rest)
  | cs =>
    match tablePairs value (cs.length + 1) cs with
    | none => none
    | some (pairs, rest) => (addPairs [] pairs).map fun es => (.table .inline es, rest)

/-- The value at the start of the text, with at most so many lists and tables inside each other. -/
def value? (depth : Nat) (cs : List Char) : Reading Value :=
  match cs with
  | [] => none
  | c :: rest =>
    if c = '"' ∨ c = '\'' then
      (quotedText? cs).map fun (s, rest) => (.text (String.ofList s), rest)
    else
      match depth with
      | 0 =>
        if c = '[' ∨ c = '\x7b' then none
        else (scalar? (scalarText cs)).map fun v => (v, cs.drop (scalarText cs).length)
      | depth + 1 =>
        if c = '[' then
          (listItems (value? depth) (rest.length + 1) rest).map fun (items, rest) =>
            (.list items, rest)
        else if c = '\x7b' then inlineTable (value? depth) rest
        else (scalar? (scalarText cs)).map fun v => (v, cs.drop (scalarText cs).length)

/-- The text after the end of a line, which may hold a comment. -/
def afterLine? (cs : List Char) : Option (List Char) :=
  let rest :=
    match cs.dropWhile isGap with
    | '#' :: comment => comment.dropWhile isTextChar
    | rest => rest
  match rest with
  | [] => some []
  | rest => afterBreak? rest

def header? (repeated : Bool) (cs : List Char) : Reading (List String) :=
  match keyAt? cs, repeated with
  | some (path, ']' :: ']' :: rest), true => (afterLine? rest).map fun rest => (path, rest)
  | some (path, ']' :: rest), false => (afterLine? rest).map fun rest => (path, rest)
  | _, _ => none

/-- A section whose pairs were listed last first, with its pairs in order. -/
def Section.finished (s : Section) : Section := { s with pairs := s.pairs.reverse }

/-- The sections of a text; `current` is the one being read, its last pair first. -/
def sectionsFrom (current : Section) : Nat → List Char → Option (List Section)
  | 0, _ => none
  | fuel + 1, cs =>
    let next (header : Reading (List String)) (repeated : Bool) : Option (List Section) :=
      match header with
      | none => none
      | some (path, rest) =>
        (sectionsFrom ⟨path, repeated, []⟩ fuel rest).map (current.finished :: ·)
    match afterIdle? false cs with
    | none => none
    | some [] => some [current.finished]
    | some ('[' :: '[' :: rest) => next (header? true rest) true
    | some ('[' :: rest) => next (header? false rest) false
    | some cs =>
      match pair? (value? (depthLimit - 1)) cs with
      | none => none
      | some (p, rest) =>
        match afterLine? rest with
        | none => none
        | some rest => sectionsFrom { current with pairs := p :: current.pairs } fuel rest

/-- The text without a byte order mark. -/
def withoutMark : List Char → List Char
  | '\ufeff' :: rest => rest
  | cs => cs

def read (text : String) : Option Entries :=
  let cs := withoutMark text.toList
  (sectionsFrom {} (cs.length + 1) cs).bind (build [])

end PromptScript.Toml
