import PromptScript.Decimal.Binary64

/-!
# Decimal.Shortest

The text of a floating-point number: the fewest digits that read back as the number, of those the
nearest to it, in positional notation as long as the number is neither large nor small.
-/

namespace PromptScript

namespace Binary64

/-- The numbers between which all reals round to `m · 2 ^ e`, over a common denominator: the lower
end, the number itself, the upper end, and the denominator. Below a power of two the next number is
only half as far away. -/
def interval (m : Nat) (e : Int) : Nat × Nat × Nat × Nat :=
  let below := if m = mantissaBound / 2 ∧ leastExponent < e then 1 else 2
  let (n, d) := scaled 1 4 (-e)
  ((4 * m - below) * n, 4 * m * n, (4 * m + 2) * n, d)

/-- `d · 10 ^ k` in units of `1 / den`: compares as numerators over `den`. -/
def gridPoint (d den : Nat) (k : Int) : Nat × Nat :=
  if 0 ≤ k then (d * tenTo k.toNat * den, 1) else (d * den, tenTo (-k).toNat)

/-- The decimal exponent of a positive fraction: the number of digits before the point, or minus the
number of zeros after it. Starts from a guess that is at most a few too low. -/
def decimalExponent (num den : Nat) : Nat → Int → Int
  | 0, e => e
  | fuel + 1, e =>
    let (p, q) := gridPoint 1 den e
    if p ≤ num * q then decimalExponent num den fuel (e + 1) else e

/-- The decimal of `n` digits that lies in the interval and is nearest to the number, if there is
one: the digits, and the exponent of the last of them. -/
def shortestOf? (m : Nat) (low num high den : Nat) (point : Int) (n : Nat) : Option (Nat × Int) :=
  let k := point - n
  let (unit, q) := gridPoint 1 den k
  let d := num * q / unit
  let inside (d : Nat) : Bool :=
    let v := d * unit
    if m % 2 = 0 then low * q ≤ v && v ≤ high * q else low * q < v && v < high * q
  let twice := 2 * (num * q - d * unit)
  let up := unit < twice || (unit == twice && d % 2 == 1)
  let first := if up then d + 1 else d
  let second := if up then d else d + 1
  let found (d : Nat) : Option (Nat × Int) := some (if d = tenTo n then (1, point) else (d, k))
  if inside first then found first
  else if inside second then found second
  else none

/-- The shortest decimal of at least `n` digits that reads back as the number. -/
def shortestFrom (m : Nat) (low num high den : Nat) (point : Int) : Nat → Nat → Nat × Int
  | 0, _ => (0, 0)
  | fuel + 1, n =>
    match shortestOf? m low num high den point n with
    | some r => r
    | none => shortestFrom m low num high den point fuel (n + 1)

/-- The shortest decimal of a positive number: its digits and the exponent of the last of them. -/
def shortest (m : Nat) (e : Int) : Nat × Int :=
  let (low, num, high, den) := interval m e
  let guess := ((num.log2 : Int) - (den.log2 : Int) - 1) * 30103 / 100000 - 1
  let point := decimalExponent num den 8 guess
  shortestFrom m low num high den point 18 1

def digitsOf (n : Nat) : List Char := Nat.toDigits 10 n

/-- A decimal in positional notation with at least one digit on either side of the point as long as
the point lies at most sixteen digits after the first digit or four zeros before it, and with an
exponent otherwise. -/
def layout (digits : Nat) (exponent : Int) : List Char :=
  let ds := digitsOf digits
  let point := ds.length + exponent
  if 0 ≤ exponent ∧ point ≤ 16 then ds ++ List.replicate exponent.toNat '0' ++ ['.', '0']
  else if 0 < point ∧ point ≤ 16 then ds.take point.toNat ++ '.' :: ds.drop point.toNat
  else if -5 < point ∧ point ≤ 0 then
    '0' :: '.' :: List.replicate (-point).toNat '0' ++ ds
  else
    let mantissa :=
      match ds with
      | [d] => [d]
      | d :: more => d :: '.' :: more
      | [] => []
    mantissa ++ 'e' :: (toString (point - 1)).toList

def render : Binary64 → String
  | .nan => ".nan"
  | .infinite negative => if negative then "-.inf" else ".inf"
  | .finite negative m e =>
    let body :=
      if m = 0 then ['0', '.', '0']
      else
        let (digits, exponent) := shortest m e
        layout digits exponent
    String.ofList (if negative then '-' :: body else body)

end Binary64

end PromptScript
