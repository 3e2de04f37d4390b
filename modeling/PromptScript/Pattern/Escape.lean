import PromptScript.Pattern.Basic
import PromptScript.Pattern.Names

/-!
# Pattern.Escape

What a backslash introduces in a pattern, and the flags on which the meaning of a pattern depends.
-/

namespace PromptScript

namespace Pattern

/-- The flags in force at a place in a pattern. -/
structure Flags where
  /-- Letters stand for both cases. -/
  caseless : Bool := false
  /-- Line starts and ends count, not only those of the text. -/
  multiLine : Bool := false
  /-- The dot stands for line ends too. -/
  dotAll : Bool := false
  /-- Classes follow the character standard, not ASCII alone. -/
  unicode : Bool := true
  /-- A carriage return ends a line too. -/
  anyLineEnd : Bool := false
  /-- Blanks and comments inside the pattern do not count. -/
  verbose : Bool := false
  deriving DecidableEq, Repr

/-- Drops the blanks and comments at the start of a verbose pattern; `comment` says whether a
comment has begun. -/
def dropBlanks (comment : Bool) : List Char → List Char
  | [] => []
  | c :: rest =>
    if comment then dropBlanks (c ≠ '\n') rest
    else if isBlank c then dropBlanks false rest
    else if c = '#' then dropBlanks true rest
    else c :: rest

def skip (flags : Flags) (cs : List Char) : List Char :=
  if flags.verbose then dropBlanks false cs else cs

/-- The characters that count up to a closing brace, and what follows it. -/
def untilBrace? (verbose comment : Bool) : List Char → Option (List Char × List Char)
  | [] => none
  | c :: rest =>
    if comment then untilBrace? verbose (c ≠ '\n') rest
    else if verbose && isBlank c then untilBrace? verbose false rest
    else if verbose && c = '#' then untilBrace? verbose true rest
    else if c = '\x7d' then some ([], rest)
    else (untilBrace? verbose false rest).map fun (cs, after) => (c :: cs, after)

/-- The decimal digits at the start; in a verbose pattern blanks and comments may stand among
them. -/
def leadingDigits (verbose comment : Bool) : List Char → List Char × List Char
  | [] => ([], [])
  | c :: rest =>
    if comment then leadingDigits verbose (c ≠ '\n') rest
    else if isAsciiDigit c then
      let (digits, after) := leadingDigits verbose false rest
      (c :: digits, after)
    else if verbose && isBlank c then leadingDigits verbose false rest
    else if verbose && c = '#' then leadingDigits verbose true rest
    else ([], c :: rest)

def decimalNumber (digits : List Char) : Nat :=
  digits.foldl (fun n d => 10 * n + (d.toNat - '0'.toNat)) 0

/-- The largest count of a repetition. -/
def largestCount : Nat := 4294967295

def readCount? (flags : Flags) (cs : List Char) : Option (Nat × List Char) :=
  match leadingDigits flags.verbose false (cs.dropWhile isBlank) with
  | ([], _) => none
  | (digits, after) =>
    if largestCount < decimalNumber digits then none
    else some (decimalNumber digits, after.dropWhile isBlank)

/-- What one element of a pattern or of a class stands for. -/
inductive Atom where
  /-- A character; `byte` if it was written as a byte of two hexadecimal digits. -/
  | char (c : Char) (byte : Bool)
  | set (s : CharSet)
  | look (l : Look)
  deriving DecidableEq, Repr

def metaCharacters : List Char :=
  ['\\', '.', '+', '*', '?', '(', ')', '|', '[', ']', '\x7b', '\x7d', '^', '$', '#', '&', '-', '~']

/-- Whether a backslash may stand before the character to no other effect than to take away its
meaning: any ASCII character but letters, digits and angle brackets. -/
def isEscapable (c : Char) : Bool :=
  metaCharacters.contains c ||
    (c.toNat < 128 && !isAsciiLetter c && !isAsciiDigit c && c ≠ '<' && c ≠ '>')

def hexDigits? (flags : Flags) : Nat → List Char → Option (List Char × List Char)
  | 0, cs => some ([], cs)
  | _ + 1, [] => none
  | n + 1, c :: rest =>
    if (hexDigit? c).isSome then
      (hexDigits? flags n (skip flags rest)).map fun (digits, after) => (c :: digits, after)
    else none

/-- A character by its code point: in braces, or with a fixed number of digits. -/
def readCodePoint? (flags : Flags) (width : Nat) (cs : List Char) :
    Option (Atom × List Char) :=
  match skip flags cs with
  | '\x7b' :: rest =>
    match untilBrace? flags.verbose false rest with
    | none => none
    | some (digits, after) =>
      if digits ≠ [] ∧ digits.all fun c => (hexDigit? c).isSome then
        (charOf? (hexNumber digits)).map fun c => (.char c false, skip flags after)
      else none
  | cs =>
    match hexDigits? flags width cs with
    | none => none
    | some (digits, after) =>
      (charOf? (hexNumber digits)).map fun c => (.char c (width == 2), after)

/-- Refuses a set that goes beyond ASCII under ASCII rules, where it would hold parts of
characters. -/
def ruled? (flags : Flags) (s : CharSet) : Option CharSet :=
  if flags.unicode || s.isAsciiOnly then some s else none

/-- The set without regard to case, if the flags say so. -/
def folded (flags : Flags) (s : CharSet) : CharSet :=
  if flags.caseless then (if flags.unicode then .caseless s else .asciiCaseless s) else s

def signed (negated : Bool) (s : CharSet) : CharSet := if negated then .compl s else s

def letterClass? (flags : Flags) (unicode ascii : CharSet) (negated : Bool) : Option CharSet :=
  ruled? flags (signed negated (if flags.unicode then unicode else ascii))

/-- A class of the character standard, after its letter. -/
def readProperty? (flags : Flags) (negated : Bool) (cs : List Char) :
    Option (Atom × List Char) :=
  let found : Option (CharSet × List Char) :=
    match skip flags cs with
    | [] => none
    | '\x7b' :: rest =>
      match untilBrace? flags.verbose false rest with
      | none => none
      | some (text, after) => (CharSet.ofClassText? text).map fun s => (s, after)
    | '\\' :: _ => none
    | c :: rest => (CharSet.ofName? [c]).map fun s => (s, skip flags rest)
  match found with
  | some (s, after) =>
    if flags.unicode then some (.set (signed negated (folded flags s)), after) else none
  | none => none

/-- The condition that a name between braces after `\b` gives. -/
def namedBoundary? (ascii : Bool) (name : List Char) : Option Look :=
  match String.ofList name with
  | "start" => some (.wordStart ascii)
  | "end" => some (.wordEnd ascii)
  | "start-half" => some (.wordStartHalf ascii)
  | "end-half" => some (.wordEndHalf ascii)
  | _ => none

/-- What follows `\b`. A brace opens a named boundary if a letter or a hyphen comes next;
otherwise it is left for a count. -/
def readBoundary? (flags : Flags) (cs : List Char) : Option (Atom × List Char) :=
  match cs with
  | '\x7b' :: rest =>
    match skip flags rest with
    | [] => none
    | c :: more =>
      if isAsciiLetter c || c = '-' then
        match untilBrace? flags.verbose false (c :: more) with
        | none => none
        | some (name, after) =>
          (namedBoundary? (!flags.unicode) name).map fun l => (.look l, after)
      else some (.look (.wordBoundary (!flags.unicode)), cs)
  | cs => some (.look (.wordBoundary (!flags.unicode)), cs)

def readEscape? (flags : Flags) : List Char → Option (Atom × List Char)
  | [] => none
  | c :: rest =>
    let ascii := !flags.unicode
    let char (c : Char) : Option (Atom × List Char) := some (.char c false, rest)
    let set (s : Option CharSet) : Option (Atom × List Char) := s.map fun s => (.set s, rest)
    let look (l : Look) : Option (Atom × List Char) := some (.look l, rest)
    match c with
    | 'x' => readCodePoint? flags 2 rest
    | 'u' => readCodePoint? flags 4 rest
    | 'U' => readCodePoint? flags 8 rest
    | 'p' => readProperty? flags false rest
    | 'P' => readProperty? flags true rest
    | 'd' => set (letterClass? flags .digit CharSet.asciiDigits false)
    | 'D' => set (letterClass? flags .digit CharSet.asciiDigits true)
    | 's' => set (letterClass? flags .blank CharSet.asciiBlanks false)
    | 'S' => set (letterClass? flags .blank CharSet.asciiBlanks true)
    | 'w' => set (letterClass? flags .word CharSet.asciiWord false)
    | 'W' => set (letterClass? flags .word CharSet.asciiWord true)
    | 'a' => char '\x07'
    | 'f' => char '\x0c'
    | 't' => char '\t'
    | 'n' => char '\n'
    | 'r' => char '\r'
    | 'v' => char '\x0b'
    | 'A' => look .textStart
    | 'z' => look .textEnd
    | 'b' => readBoundary? flags rest
    | 'B' => look (.noWordBoundary ascii)
    | '<' => look (.wordStart ascii)
    | '>' => look (.wordEnd ascii)
    | c => if isEscapable c then char c else none

end Pattern

end PromptScript
