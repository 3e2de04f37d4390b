import PromptScript.Calendar
import PromptScript.Decimal.Numeral
import PromptScript.Text.Fields
import PromptScript.Toml.Value

/-!
# Toml.Scalar

Values that are written without quotes and brackets: truth values, integers, floating-point numbers,
dates and times. What number or moment is written matters for integers only.
-/

namespace PromptScript.Toml

/-- The digits of a numeral; single underscores may stand between two of them. -/
def digits? (isDigit : Char → Bool) (cs : List Char) : Option (List Char) :=
  let groups := fields '_' cs
  if groups.all fun g => !g.isEmpty && g.all isDigit then some groups.flatten else none

/-- The digits of a decimal integer without a sign, with no zero in front. -/
def decimalDigits? (cs : List Char) : Option (List Char) :=
  match digits? isAsciiDigit cs with
  | some ('0' :: d :: _) => if isAsciiDigit d then none else none
  | found => found

/-- A sign and the text after it. -/
def signed : List Char → Bool × List Char
  | '-' :: rest => (true, rest)
  | '+' :: rest => (false, rest)
  | cs => (false, cs)

def integer? (cs : List Char) : Option Int :=
  match cs with
  | '0' :: 'x' :: rest => read 16 rest
  | '0' :: 'o' :: rest => read 8 rest
  | '0' :: 'b' :: rest => read 2 rest
  | cs =>
    let (negative, rest) := signed cs
    ((decimalDigits? rest).bind (numberIn? 10)).map fun n => if negative then -(n : Int) else n
where
  /-- The number that digits of a base write. -/
  read (base : Nat) (cs : List Char) : Option Int :=
    ((digits? (fun c => (hexDigit? c).isSome) cs).bind (numberIn? base)).map fun n => (n : Int)

/-- Whether the text is that of an exponent, without the letter in front. -/
def isExponent (cs : List Char) : Bool := (digits? isAsciiDigit (signed cs).2).isSome

/-- Whether the text after the whole part of a number makes it a floating-point number. -/
def isFraction : List Char → Bool
  | '.' :: rest =>
    let fraction := rest.takeWhile fun c => c ≠ 'e' && c ≠ 'E'
    (digits? isAsciiDigit fraction).isSome &&
      match rest.drop fraction.length with
      | [] => true
      | _ :: exponent => isExponent exponent
  | 'e' :: exponent => isExponent exponent
  | 'E' :: exponent => isExponent exponent
  | _ => false

/-- Whether the text writes a floating-point number. One above the range is refused, one below it is
taken as infinite. -/
def isFloat (cs : List Char) : Bool :=
  let (negative, rest) := signed cs
  let whole := rest.takeWhile fun c => c ≠ '.' && c ≠ 'e' && c ≠ 'E'
  if ["inf", "nan"].contains (String.ofList rest) then true
  else
    (decimalDigits? whole).isSome && isFraction (rest.drop whole.length) &&
      match Binary64.ofNumeral? negative (rest.filter (· ≠ '_')) with
      | some (.infinite false) => false
      | some _ => true
      | none => false

/-- Whether the text starts with a time of the day, and what follows it: hours, minutes, seconds and
perhaps a fraction. -/
def afterTime? : List Char → Option (List Char)
  | h1 :: h2 :: ':' :: m1 :: m2 :: ':' :: s1 :: s2 :: rest =>
    if [h1, h2, m1, m2, s1, s2].all isAsciiDigit ∧ digitsValue [h1, h2] < 24 ∧
        digitsValue [m1, m2] < 60 ∧ digitsValue [s1, s2] ≤ 60 then
      match rest with
      | '.' :: f :: rest => if isAsciiDigit f then some (rest.dropWhile isAsciiDigit) else none
      | rest => some rest
    else none
  | _ => none

/-- Whether the text is a time zone: `Z`, or a sign with hours and minutes. -/
def isOffset : List Char → Bool
  | ['Z'] => true
  | ['z'] => true
  | [sign, h1, h2, ':', m1, m2] =>
    (sign == '+' || sign == '-') && [h1, h2, m1, m2].all isAsciiDigit &&
      digitsValue [h1, h2] < 24 && digitsValue [m1, m2] < 60
  | _ => false

/-- Whether the text is a date, a time, or both with or without a time zone. -/
def isMoment (cs : List Char) : Bool :=
  let time (cs : List Char) (zoned : Bool) : Bool :=
    match afterTime? cs with
    | none => false
    | some rest => rest.isEmpty || (zoned && isOffset rest)
  if isDate (cs.take 10) then
    match cs.drop 10 with
    | [] => true
    | c :: rest => (c == 'T' || c == 't' || c == ' ') && time rest true
  else time cs false

def scalar? (cs : List Char) : Option Value :=
  match String.ofList cs with
  | "true" => some (.flag true)
  | "false" => some (.flag false)
  | _ =>
    match integer? cs with
    | some n => if fitsSigned64 n then some (.integer n) else none
    | none => if isFloat cs then some .float else if isMoment cs then some .moment else none

def isScalarChar (c : Char) : Bool :=
  isAsciiLetter c || isAsciiDigit c || ['+', '-', '_', '.', ':'].contains c

/-- The text of such a value at the start. A date may have a time after one space. -/
def scalarText (cs : List Char) : List Char :=
  let first := cs.takeWhile isScalarChar
  match cs.drop first.length with
  | ' ' :: c :: rest =>
    if isDate first ∧ isAsciiDigit c then first ++ ' ' :: (c :: rest).takeWhile isScalarChar
    else first
  | _ => first

end PromptScript.Toml
