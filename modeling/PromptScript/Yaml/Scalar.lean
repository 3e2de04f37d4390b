import PromptScript.Decimal.Numeral
import PromptScript.Yaml.Node

/-!
# Yaml.Scalar

What the text of a scalar stands for: null, a truth value, an integer, a floating-point number, or
the text itself.
-/

namespace PromptScript.Yaml

namespace Scalar

def isNull (cs : List Char) : Bool :=
  ["null", "Null", "NULL", "~"].contains (String.ofList cs)

def flag? (cs : List Char) : Option Bool :=
  match String.ofList cs with
  | "true" => some true
  | "True" => some true
  | "TRUE" => some true
  | "false" => some false
  | "False" => some false
  | "FALSE" => some false
  | _ => none

/-- The text without a sign in front. -/
def unsigned : List Char → List Char
  | '-' :: rest => rest
  | '+' :: rest => rest
  | cs => cs

/-- Whether the text, after a sign, is a zero followed by more digits. Such a text is no number. -/
def hasIdleZero (cs : List Char) : Bool :=
  match unsigned cs with
  | '0' :: c :: rest => (c :: rest).all isAsciiDigit
  | _ => false

/-- The natural number that a text without a sign writes, in base 16, 8, 2 or 10. -/
def magnitude? : List Char → Option Nat
  | '0' :: 'x' :: rest => numberIn? 16 rest
  | '0' :: 'o' :: rest => numberIn? 8 rest
  | '0' :: 'b' :: rest => numberIn? 2 rest
  | cs => numberIn? 10 cs

def integer? (cs : List Char) : Option (Bool × Nat) :=
  if hasIdleZero cs then none
  else
    match cs with
    | '-' :: rest => (magnitude? rest).map fun n => (true, n)
    | '+' :: rest => (magnitude? rest).map fun n => (false, n)
    | cs => (magnitude? cs).map fun n => (false, n)

/-- The floating-point number that a text writes. One too large for the range is none. -/
def float? (cs : List Char) : Option Binary64 :=
  let finite (x : Option Binary64) : Option Binary64 := x.filter Binary64.isFinite
  match String.ofList (unsigned cs) with
  | ".inf" => some (.infinite (cs.head? == some '-'))
  | ".Inf" => some (.infinite (cs.head? == some '-'))
  | ".INF" => some (.infinite (cs.head? == some '-'))
  | _ =>
    match String.ofList cs with
    | ".nan" => some .nan
    | ".NaN" => some .nan
    | ".NAN" => some .nan
    | _ =>
      match cs with
      | '-' :: rest => finite (Binary64.ofNumeral? true rest)
      | '+' :: rest => finite (Binary64.ofNumeral? false rest)
      | cs => finite (Binary64.ofNumeral? false cs)

/-- The largest integer. -/
def largest : Nat := twoTo 64 - 1

/-- The largest magnitude of a negative integer. -/
def largestNegative : Nat := twoTo 63

/-- What an integer of the given sign and magnitude stands for: itself, nothing if it is too wide by a
little, and `none` if it is so wide that it counts as a decimal. -/
def ofInteger? (negative : Bool) (n : Nat) : Option (Option Node) :=
  if negative then
    if n ≤ largestNegative then some (some (.integer (-(n : Int))))
    else if n ≤ twoTo 127 then some none
    else none
  else if n ≤ largest then some (some (.integer n))
  else if n < twoTo 128 then some none
  else none

def readInteger? (cs : List Char) : Option (Option Node) :=
  (integer? cs).bind fun (negative, n) => ofInteger? negative n

/-- What a plain text stands for; `none` for an integer that is too wide. -/
def ofPlain? (cs : List Char) : Option Node :=
  if cs.isEmpty || isNull cs then some .null
  else
    match flag? cs with
    | some b => some (.flag b)
    | none =>
      match readInteger? cs with
      | some n => n
      | none =>
        match if hasIdleZero cs then none else float? cs with
        | some x => some (.float x)
        | none => some (.text (String.ofList cs))

/-- The start of the tags of the core schema. -/
def coreTags : String := "tag:yaml.org,2002:"

/-- What a text with a tag of the core schema stands for; `none` if it does not fit the tag. Other
tags make it a text. -/
def ofTagged? (tag : List Char) (cs : List Char) : Option Node :=
  let name := String.ofList tag
  if name = coreTags ++ "bool" then (flag? cs).map .flag
  else if name = coreTags ++ "int" then (readInteger? cs).bind id
  else if name = coreTags ++ "float" then (float? cs).map .float
  else if name = coreTags ++ "null" then if isNull cs then some .null else none
  else some (.text (String.ofList cs))

end Scalar

end PromptScript.Yaml
