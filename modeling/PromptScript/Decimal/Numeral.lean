import PromptScript.Decimal.Binary64
import PromptScript.Text.CodePoints
import PromptScript.Text.Letter

/-!
# Decimal.Numeral

Decimal numerals, with or without a fraction and an exponent.
-/

namespace PromptScript

/-- The exponent that follows a mantissa; none is as good as zero. -/
def exponent? : List Char → Option Int
  | [] => some 0
  | e :: rest =>
    if e = 'e' ∨ e = 'E' then
      match rest with
      | '-' :: digits => (numberIn? 10 digits).map fun n => -(n : Int)
      | '+' :: digits => (numberIn? 10 digits).map fun n => (n : Int)
      | digits => (numberIn? 10 digits).map fun n => (n : Int)
    else none

/-- The number that a numeral without a sign writes. -/
def Binary64.ofNumeral? (negative : Bool) (cs : List Char) : Option Binary64 :=
  let whole := cs.takeWhile isAsciiDigit
  let rest := cs.dropWhile isAsciiDigit
  let (fraction, rest) :=
    match rest with
    | '.' :: rest => (rest.takeWhile isAsciiDigit, rest.dropWhile isAsciiDigit)
    | rest => ([], rest)
  match numberIn? 10 (whole ++ fraction), exponent? rest with
  | some digits, some e => some (.ofDecimal negative digits (e - fraction.length))
  | _, _ => none

end PromptScript
