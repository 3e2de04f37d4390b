/-!
# Text.CodePoints

Sets of characters given as ascending ranges of code points, for the tables of character
properties. `ofText` reads the written form of a table: hexadecimal numbers, alone or as ranges
such as `41-5a`, separated by blanks.
-/

namespace PromptScript

/-- The value of a hexadecimal digit in either case, `none` for any other character. -/
def hexDigit? (c : Char) : Option Nat :=
  if '0' ≤ c ∧ c ≤ '9' then some (c.toNat - '0'.toNat)
  else if 'a' ≤ c ∧ c ≤ 'f' then some (c.toNat - 'a'.toNat + 10)
  else if 'A' ≤ c ∧ c ≤ 'F' then some (c.toNat - 'A'.toNat + 10)
  else none

/-- The number that a list of hexadecimal digits writes; other characters are passed over. -/
def hexNumber (cs : List Char) : Nat :=
  (cs.filterMap hexDigit?).foldl (fun n d => 16 * n + d) 0

/-- The number that digits of a base write; there is at least one. -/
def numberIn? (base : Nat) (cs : List Char) : Option Nat :=
  if cs.isEmpty then none
  else
    cs.foldl
      (fun n c => n.bind fun n => (hexDigit? c).bind fun d =>
        if d < base then some (base * n + d) else none)
      (some 0)

def charOf? (n : Nat) : Option Char := if h : n.isValidChar then some (Char.ofNatAux n h) else none

/-- A set of code points: ascending, disjoint ranges with both ends included. -/
structure CodePoints where
  ranges : Array (Nat × Nat)
  deriving Inhabited

namespace CodePoints

def readRange (entry : List Char) : Nat × Nat :=
  let first := hexNumber (entry.takeWhile (· ≠ '-'))
  match entry.dropWhile (· ≠ '-') with
  | [] => (first, first)
  | _ :: last => (first, hexNumber last)

/-- The blank-separated entries of a table; `entry` is the one being read, last character first. -/
def entries (entry : List Char) : List Char → List (List Char)
  | [] => if entry.isEmpty then [] else [entry.reverse]
  | c :: rest =>
    if c = ' ' ∨ c = '\n' then
      if entry.isEmpty then entries [] rest else entry.reverse :: entries [] rest
    else entries (c :: entry) rest

def ofText (text : String) : CodePoints := ⟨((entries [] text.toList).map readRange).toArray⟩

/-- Whether `n` lies in one of the ranges with index from `low` up to, not including, `high`. -/
def search (ranges : Array (Nat × Nat)) (n low high : Nat) : Bool :=
  if low < high then
    let middle := (low + high) / 2
    match ranges[middle]? with
    | none => false
    | some (first, last) =>
      if n < first then search ranges n low middle
      else if last < n then search ranges n (middle + 1) high
      else true
  else false
  termination_by high - low

def contains (s : CodePoints) (c : Char) : Bool := search s.ranges c.toNat 0 s.ranges.size

end CodePoints

end PromptScript
