import PromptScript.Text.Property
import PromptScript.Text.Script

/-!
# Text.Boundary

What a character is where a text is cut into the characters that a reader sees, into words, and into
sentences. For each of these cuts the characters fall into classes, told by rules in a fixed order:
a character belongs to the first class whose rule holds of it.
-/

namespace PromptScript

/-- What a text is cut into. -/
inductive Boundary where
  | grapheme
  | word
  | sentence
  deriving DecidableEq, Repr

namespace Boundary

def prependPoints : CodePoints := .ofText "
600-605 6dd 70f 890-891 8e2 d4e 110bd 110cd 111c2-111c3 1193f 11941 11a3a 11a84-11a89 11d46 11f02"

/-- Marks that take room and are characters of their own. -/
def spacingMarkNeverPoints : CodePoints := .ofText "
102b-102c 1038 1062-1064 1067-106d 1083 1087-108c 108f 109a-109c 1a61 1a63-1a64 aa7b aa7d
11720-11721"

def numericPoints : CodePoints := .ofText "
66b-66c"

def midNumberOrLetterPoints : CodePoints := .ofText "
2e 2018-2019 2024 fe52 ff07 ff0e"

def midLetterPoints : CodePoints := .ofText "
3a b7 387 55f 5f4 2027 fe13 fe55 ff1a"

def midNumberPoints : CodePoints := .ofText "
2c 3b 37e 589 60c-60d 66c 7f8 2044 fe10 fe14 fe50 fe54 ff0c ff1b"

def katakanaOtherPoints : CodePoints := .ofText "
3031-3035 309b-309c 30a0 30fc ff70"

def letterOtherPoints : CodePoints := .ofText "
2c2-2c5 2d2-2d7 2de-2df 2e5-2eb 2ed 2ef-2ff 55a-55c 55e 58a 5f3 a708-a716 a720-a721 a789-a78a
ab5b"

/-- Letters of scripts that are written without a sign between the words. -/
def runningLetterPoints : CodePoints := .ofText "
e01-e30 e32-e33 e40-e46 e81-e82 e84 e86-e8a e8c-ea3 ea5 ea7-eb0 eb2-eb3 ebd ec0-ec4 ec6 edc-edf
1000-102a 103f 1050-1055 105a-105d 1061 1065-1066 106e-1070 1075-1081 108e 1780-17b3 17d7 17dc
1950-196d 1970-1974 1980-19ab 19b0-19c9 1a20-1a54 1aa7 a9e0-a9e4 a9e6-a9ef a9fa-a9fe aa60-aa76
aa7a aa7e-aaaf aab1 aab5-aab6 aab9-aabd aac0 aac2 aadb-aadd 11700-1171a 11740-11746"

/-- Georgian letters, which have two cases but no capitals at the start of a sentence. -/
def georgianLowerPoints : CodePoints := .ofText "
10d0-10fa 10fd-10ff"

def georgianUpperPoints : CodePoints := .ofText "
1c90-1cba 1cbd-1cbf"

def fullStopPoints : CodePoints := .ofText "
2e 2024 fe52 ff0e"

def sentenceContinuePoints : CodePoints := .ofText "
2c-2d 3a 55d 60c-60d 7f8 1802 1808 2013-2014 3001 fe10-fe11 fe13 fe31-fe32 fe50-fe51 fe55 fe58
fe63 ff0c-ff0d ff1a ff64"

def quotationOtherPoints : CodePoints := .ofText "
22 27 275b-2760 2e00-2e01 2e06-2e08 2e0b 1f676-1f678"

/-- Whether the character lies between the two code points, both included. -/
def within (first last : Nat) (c : Char) : Bool := first ≤ c.toNat && c.toNat ≤ last

def isJoiner (c : Char) : Bool := c.toNat == 0x200D

def isRegionalIndicator (c : Char) : Bool := Property.regionalIndicator.contains c

def isDigit (c : Char) : Bool := Category.decimalDigit.contains c || numericPoints.contains c

/-- Whether the character ends a line or a paragraph and is none of the ASCII line ends. -/
def isSeparator (c : Char) : Bool :=
  c.toNat == 0x85 || Category.lineSeparator.contains c || Category.paragraphSeparator.contains c

def isGraphemeControl (c : Char) : Bool :=
  Category.lineSeparator.contains c || Category.paragraphSeparator.contains c ||
    Category.control.contains c || Category.format.contains c ||
    (Category.unassigned.contains c && Property.defaultIgnorable.contains c)

def isSpacingMark (c : Char) : Bool :=
  (Category.spacingMark.contains c || c.toNat == 0xE33 || c.toNat == 0xEB3) &&
    !spacingMarkNeverPoints.contains c

/-- Whether the character is a Korean syllable without a consonant at its end. -/
def isOpenSyllable (c : Char) : Bool := within 0xAC00 0xD7A3 c && (c.toNat - 0xAC00) % 28 == 0

def isWordLetter (c : Char) : Bool :=
  (Property.alphabetic.contains c && !Property.ideographic.contains c &&
    !runningLetterPoints.contains c && !(Script.mk "hiragana").contains c) ||
    letterOtherPoints.contains c

def isWordBlank (c : Char) : Bool :=
  Category.space.contains c && c.toNat != 0xA0 && c.toNat != 0x2007

def isClosing (c : Char) : Bool :=
  Category.openBracket.contains c || Category.closeBracket.contains c ||
    Category.initialQuote.contains c || Category.finalQuote.contains c ||
    quotationOtherPoints.contains c

/-- The classes of a cut, each with its names and its rule. Names are in lower case and without
separators. -/
def classes : Boundary → List (List String × (Char → Bool))
  | .grapheme =>
    [(["cr"], (· == '\r')),
     (["lf"], (· == '\n')),
     (["zwj"], isJoiner),
     (["prepend", "pp"], prependPoints.contains),
     (["extend", "ex"], fun c =>
       Property.graphemeExtend.contains c || Property.emojiModifier.contains c),
     (["control", "cn"], isGraphemeControl),
     (["regionalindicator", "ri"], isRegionalIndicator),
     (["l"], fun c => within 0x1100 0x115F c || within 0xA960 0xA97C c),
     (["v"], fun c => within 0x1160 0x11A7 c || within 0xD7B0 0xD7C6 c),
     (["t"], fun c => within 0x11A8 0x11FF c || within 0xD7CB 0xD7FB c),
     (["lv"], isOpenSyllable),
     (["lvt"], within 0xAC00 0xD7A3),
     (["spacingmark", "sm"], isSpacingMark)]
  | .word =>
    [(["cr"], (· == '\r')),
     (["lf"], (· == '\n')),
     (["newline", "nl"], fun c => isSeparator c || within 0xB 0xC c),
     (["zwj"], isJoiner),
     (["extend"], fun c =>
       Property.graphemeExtend.contains c || Category.spacingMark.contains c ||
         Property.emojiModifier.contains c),
     (["regionalindicator", "ri"], isRegionalIndicator),
     (["extendnumlet", "ex"], fun c => Category.connector.contains c || c.toNat == 0x202F),
     (["midnumlet", "mb"], midNumberOrLetterPoints.contains),
     (["midletter", "ml"], midLetterPoints.contains),
     (["midnum", "mn"], midNumberPoints.contains),
     (["numeric", "nu"], isDigit),
     (["format", "fo"], fun c => Category.format.contains c && c.toNat != 0x200B),
     (["katakana", "ka"], fun c =>
       (Script.mk "katakana").contains c || katakanaOtherPoints.contains c),
     (["hebrewletter", "hl"], fun c =>
       (Script.mk "hebrew").contains c && Category.otherLetter.contains c),
     (["singlequote", "sq"], fun c => c.toNat == 0x27),
     (["doublequote", "dq"], fun c => c.toNat == 0x22),
     (["aletter", "le"], isWordLetter),
     (["wsegspace"], isWordBlank)]
  | .sentence =>
    [(["cr"], (· == '\r')),
     (["lf"], (· == '\n')),
     (["sep", "se"], isSeparator),
     (["extend", "ex"], fun c =>
       Property.graphemeExtend.contains c || Category.spacingMark.contains c || isJoiner c),
     (["format", "fo"], Category.format.contains),
     (["sp"], Property.whiteSpace.contains),
     (["lower", "lo"], fun c => Property.lowercase.contains c && !georgianLowerPoints.contains c),
     (["upper", "up"], fun c =>
       (Property.uppercase.contains c || Category.titleLetter.contains c) &&
         !georgianUpperPoints.contains c),
     (["oletter", "le"], fun c => Property.alphabetic.contains c || c.toNat == 0x5F3),
     (["numeric", "nu"], isDigit),
     (["aterm", "at"], fullStopPoints.contains),
     (["sterm", "st"], Property.sentenceTerminal.contains),
     (["scontinue", "sc"], sentenceContinuePoints.contains),
     (["close", "cl"], isClosing)]

end Boundary

/-- A class of a cut, by its place among the classes of the cut. -/
structure BoundaryClass where
  boundary : Boundary
  place : Nat
  deriving DecidableEq, Repr

namespace BoundaryClass

/-- The class with the given name, which is in lower case and without separators. -/
def ofName? (boundary : Boundary) (name : String) : Option BoundaryClass :=
  (boundary.classes.findIdx? fun (names, _) => names.contains name).map fun place =>
    ⟨boundary, place⟩

def contains (k : BoundaryClass) (c : Char) : Bool :=
  (k.boundary.classes.findIdx? fun (_, holds) => holds c) == some k.place

end BoundaryClass

end PromptScript
