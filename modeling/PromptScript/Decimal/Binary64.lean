import PromptScript.Decimal.Power

/-!
# Decimal.Binary64

Floating-point numbers of 64 bits, as exact values, and the reading of a decimal number as the
nearest of them. All arithmetic is on natural numbers.
-/

namespace PromptScript

/-- A floating-point number. A finite one is `mantissa · 2 ^ exponent`, with a mantissa below `2 ^ 53`;
the exponent is the least that allows this, but not below `-1074`. -/
inductive Binary64 where
  | nan
  | infinite (negative : Bool)
  | finite (negative : Bool) (mantissa : Nat) (exponent : Int)
  deriving DecidableEq, Repr

namespace Binary64

def leastExponent : Int := -1074

/-- The largest exponent. -/
def largestExponent : Int := 971

def mantissaBound : Nat := twoTo 53

/-- The fraction `num / den` divided by `2 ^ exponent`, as numerator and denominator. -/
def scaled (num den : Nat) (exponent : Int) : Nat × Nat :=
  if 0 ≤ exponent then (num, den * twoTo exponent.toNat) else (num * twoTo (-exponent).toNat, den)

/-- The integer nearest to `num / den`; of two the even one. -/
def roundHalfEven (num den : Nat) : Nat :=
  let q := num / den
  let r := num % den
  if 2 * r < den then q
  else if den < 2 * r then q + 1
  else if q % 2 = 0 then q else q + 1

def ofFraction (negative : Bool) (num den : Nat) : Binary64 :=
  let guess := max ((num.log2 : Int) - (den.log2 : Int) - 52) leastExponent
  let quotient (e : Int) : Nat :=
    let (n, d) := scaled num den e
    n / d
  let exponent :=
    if mantissaBound ≤ quotient guess then guess + 1
    else if quotient guess < mantissaBound / 2 then max (guess - 1) leastExponent
    else guess
  let (n, d) := scaled num den exponent
  let m := roundHalfEven n d
  let (m, exponent) := if m = mantissaBound then (mantissaBound / 2, exponent + 1) else (m, exponent)
  if largestExponent < exponent then .infinite negative else .finite negative m exponent

/-- The number of decimal digits of a natural number, 0 for 0. -/
def digitCount (n : Nat) : Nat := if n = 0 then 0 else (Nat.toDigits 10 n).length

/-- The number nearest to `digits · 10 ^ exponent`. Far outside the range that can be represented the
power is not computed. -/
def ofDecimal (negative : Bool) (digits : Nat) (exponent : Int) : Binary64 :=
  let size := (digitCount digits : Int) + exponent
  if digits = 0 ∨ size < -330 then .finite negative 0 leastExponent
  else if 310 < size then .infinite negative
  else if 0 ≤ exponent then ofFraction negative (digits * tenTo exponent.toNat) 1
  else ofFraction negative digits (tenTo (-exponent).toNat)

/-- Whether two numbers are the same: a number that is none is the same as itself, and both zeros are
the same. -/
def same : Binary64 → Binary64 → Bool
  | .finite s m e, .finite s' m' e' => m == m' && e == e' && (s == s' || m == 0)
  | a, b => a == b

def isFinite : Binary64 → Bool
  | .finite .. => true
  | _ => false

end Binary64

end PromptScript
