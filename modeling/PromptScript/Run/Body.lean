import PromptScript.Pattern.Library
import PromptScript.Reference

/-!
# Run.Body

The body of a document as commands and the text between them. A command is the mark `@file-func:`
followed by a call on the same line.
-/

namespace PromptScript

def commandMark : List Char := "@file-func:".toList

section Calls

variable [PatternLibrary]

/-- The call at the very start of the text: a word and a pair of parentheses, closed before the
line ends. -/
def leadingCall? (cs : List Char) : Option (List Char) :=
  match cs.dropWhile PatternLibrary.isWord with
  | '(' :: rest =>
    let inside := rest.takeWhile fun c => c ≠ ')' && c ≠ '\n'
    let word := cs.takeWhile PatternLibrary.isWord
    if word ≠ [] ∧ rest[inside.length]? = some ')' then
      some (word ++ '(' :: inside ++ [')'])
    else none
  | _ => none

/-- The call of the command at the very start of the text. -/
def leadingCommand? (cs : List Char) : Option (List Char) :=
  (afterOpening? commandMark cs).bind leadingCall?

end Calls

inductive BodyPart where
  | plain (text : List Char)
  | command (call : List Char)
  deriving DecidableEq, Repr

def BodyPart.written : BodyPart → List Char
  | .plain text => text
  | .command call => commandMark ++ call

def consPlain (c : Char) : List BodyPart → List BodyPart
  | .plain text :: rest => .plain (c :: text) :: rest
  | parts => .plain [c] :: parts

section Parts

variable [PatternLibrary]

/-- The parts of a body, after `skip` characters that belong to a command already taken. -/
def bodyPartsAfter (skip : Nat) : List Char → List BodyPart
  | [] => []
  | c :: rest =>
    match skip with
    | skip + 1 => bodyPartsAfter skip rest
    | 0 =>
      match leadingCommand? (c :: rest) with
      | some call =>
        .command call :: bodyPartsAfter ((BodyPart.command call).written.length - 1) rest
      | none => consPlain c (bodyPartsAfter 0 rest)

def bodyParts (cs : List Char) : List BodyPart := bodyPartsAfter 0 cs

end Parts

end PromptScript
