import PromptScript.Text.Letter
import PromptScript.Text.Lines

/-!
# Reference

Names of variables and the references to them inside text. A reference is `$name`,
`$context.name`, `{name}` or `{context.name}`, with an ASCII identifier for the name. Every text
falls into pieces, each a plain character or a reference, and finding references and replacing
them both work on these pieces, so they see the same references.
-/

namespace PromptScript

def qualifier : List Char := "context.".toList

/-- The characters after a given opening, if the text starts with it. -/
def afterOpening? : List Char → List Char → Option (List Char)
  | [], cs => some cs
  | _ :: _, [] => none
  | o :: opening, c :: cs => if o = c then afterOpening? opening cs else none

/-- A name without a pair of braces around it. -/
def withoutBraces (cs : List Char) : List Char :=
  match cs with
  | '{' :: rest => if rest.getLast? = some '}' then rest.dropLast else cs
  | _ => cs

/-- A name without the qualifier in front of it. -/
def withoutQualifier (cs : List Char) : List Char := (afterOpening? qualifier cs).getD cs

/-- The name under which a variable is known: without one pair of braces around it, and then
without one qualifier. -/
def canonicalName (name : String) : String :=
  String.ofList (withoutQualifier (withoutBraces name.toList))

/-- Whether an identifier may start with the character. -/
def startsName (c : Char) : Bool := isAsciiLetter c || c == '_'

def continuesName (c : Char) : Bool := startsName c || isAsciiDigit c

/-- The identifier at the start of the text, as long as possible; empty if there is none. -/
def leadingName : List Char → List Char
  | [] => []
  | c :: rest => if startsName c then c :: rest.takeWhile continuesName else []

/-- A reference to a variable, as written. -/
structure Reference where
  /-- Braces around the name, rather than a dollar sign in front. -/
  braced : Bool
  /-- With the qualifier in front of the name. -/
  qualified : Bool
  /-- The identifier. -/
  identifier : List Char
  deriving DecidableEq, Repr

namespace Reference

def name (r : Reference) : String := String.ofList r.identifier

def inner (r : Reference) : List Char :=
  if r.qualified then qualifier ++ r.identifier else r.identifier

def written (r : Reference) : List Char :=
  if r.braced then '{' :: r.inner ++ ['}'] else '$' :: r.inner

/-- The reference without its dollar sign. -/
def label (r : Reference) : String := String.ofList (if r.braced then r.written else r.inner)

/-- A braced name without qualifier. Prompts often carry code where such braces are meant as
they stand. -/
def bare (r : Reference) : Bool := r.braced && !r.qualified

/-- The reference of a given form that starts after the sign that opens it. -/
def ofInner? (braced qualified : Bool) (cs : List Char) : Option Reference :=
  match leadingName cs with
  | [] => none
  | id =>
    if braced && cs[id.length]? != some '}' then none
    else some ⟨braced, qualified, id⟩

/-- The reference after the sign that opens it; one with the qualifier comes first. -/
def afterSign? (braced : Bool) (cs : List Char) : Option Reference :=
  match (afterOpening? qualifier cs).bind (ofInner? braced true) with
  | some r => some r
  | none => ofInner? braced false cs

/-- The reference at the very start of the text. -/
def leading? : List Char → Option Reference
  | '{' :: rest => afterSign? true rest
  | '$' :: rest => afterSign? false rest
  | _ => none

end Reference

inductive Piece where
  | plain (c : Char)
  | reference (r : Reference)
  deriving DecidableEq, Repr

def Piece.written : Piece → List Char
  | .plain c => [c]
  | .reference r => r.written

/-- The pieces of a text, after `skip` characters that belong to a reference already taken. -/
def piecesAfter (skip : Nat) : List Char → List Piece
  | [] => []
  | c :: rest =>
    match skip with
    | skip + 1 => piecesAfter skip rest
    | 0 =>
      match Reference.leading? (c :: rest) with
      | some r => .reference r :: piecesAfter (r.written.length - 1) rest
      | none => .plain c :: piecesAfter 0 rest

/-- The text cut into references and plain characters, from left to right. -/
def pieces (cs : List Char) : List Piece := piecesAfter 0 cs

/-- A reference with the number of newlines before it. -/
structure Occurrence where
  reference : Reference
  lineOffset : Nat
  deriving DecidableEq, Repr

/-- The references among pieces that come after `line` newlines. -/
def occurrences (line : Nat) : List Piece → List Occurrence
  | [] => []
  | .plain c :: rest => occurrences (if c = '\n' then line + 1 else line) rest
  | .reference r :: rest => ⟨r, line⟩ :: occurrences line rest

/-- Every reference of the text, in order. -/
def references (text : String) : List Occurrence := occurrences 0 (pieces text.toList)

/-- A piece with its reference looked up; one that is not found stays as written. -/
def Piece.resolved (find : String → Option String) : Piece → List Char
  | .plain c => [c]
  | .reference r =>
    match find r.name with
    | some value => value.toList
    | none => r.written

/-- The text with every reference replaced that `find` knows. What is put in is not looked at
again. -/
def interpolate (find : String → Option String) (text : String) : String :=
  String.ofList ((pieces text.toList).flatMap (Piece.resolved find))

end PromptScript
