/-!
# Text.Utf8

Texts as bytes, and bytes read as a text. Names of files are bytes, which may be those of no text:
they are shown with a mark in place of each stretch that belongs to no character.
-/

namespace PromptScript

/-- The bytes of a name or a path. -/
abbrev Bytes : Type := List UInt8

/-- The bytes of a text in UTF-8. -/
def utf8 (cs : List Char) : Bytes := cs.flatMap String.utf8EncodeChar

def textBytes (text : String) : Bytes := utf8 text.toList

namespace Utf8

/-- The character whose bytes come first. -/
def firstChar? (bs : Bytes) : Option Char := (bs.take 4).toByteArray.utf8DecodeChar? 0

/-- How many bytes follow a leading one. -/
def bytesAfter (lead : UInt8) : Nat :=
  if 0xC2 ≤ lead && lead ≤ 0xDF then 1
  else if 0xE0 ≤ lead && lead ≤ 0xEF then 2
  else if 0xF0 ≤ lead && lead ≤ 0xF4 then 3
  else 0

def isTail (b : UInt8) : Bool := 0x80 ≤ b && b ≤ 0xBF

/-- Whether a byte may follow a leading one. Some leading bytes leave out a part of the others. -/
def follows (lead b : UInt8) : Bool :=
  isTail b &&
    if lead = 0xE0 then 0xA0 ≤ b
    else if lead = 0xED then b ≤ 0x9F
    else if lead = 0xF0 then 0x90 ≤ b
    else if lead = 0xF4 then b ≤ 0x8F
    else true

/-- How many bytes are taken together where no character comes first: the beginning of a character
that is broken off, or else a single byte. -/
def brokenLength : Bytes → Nat
  | lead :: second :: rest =>
    if 2 ≤ bytesAfter lead && follows lead second then
      if bytesAfter lead = 3 && rest.head?.any isTail then 3 else 2
    else 1
  | _ => 1

/-- The characters of the bytes, `none` for each stretch that belongs to none, after `skip` bytes
that are taken already. -/
def decodeAfter (skip : Nat) : Bytes → List (Option Char)
  | [] => []
  | b :: rest =>
    match skip with
    | skip + 1 => decodeAfter skip rest
    | 0 =>
      match firstChar? (b :: rest) with
      | some c => some c :: decodeAfter (c.utf8Size - 1) rest
      | none => none :: decodeAfter (brokenLength (b :: rest) - 1) rest

def decode (bs : Bytes) : List (Option Char) := decodeAfter 0 bs

/-- The text with these bytes; `none` if some of them belong to no character. -/
def text? (bs : Bytes) : Option String := ((decode bs).mapM id).map String.ofList

/-- The bytes as a text, with a mark for each stretch that belongs to no character. -/
def shown (bs : Bytes) : String := String.ofList ((decode bs).map fun c => c.getD '\uFFFD')

end Utf8

end PromptScript
