import PromptScript.Text.Letter

/-!
# Calendar

Dates of the Gregorian calendar, written as year, month and day with hyphens between them.
-/

namespace PromptScript

def isLeapYear (year : Nat) : Bool := year % 4 == 0 && (year % 100 != 0 || year % 400 == 0)

/-- The number of days of a month, 0 for a month that is none. -/
def daysOfMonth (year month : Nat) : Nat :=
  match month with
  | 1 | 3 | 5 | 7 | 8 | 10 | 12 => 31
  | 4 | 6 | 9 | 11 => 30
  | 2 => if isLeapYear year then 29 else 28
  | _ => 0

def digitsValue (digits : List Char) : Nat :=
  digits.foldl (fun n d => 10 * n + (d.toNat - '0'.toNat)) 0

/-- Whether a text is a date: four digits, two and two with hyphens between them, that name a day of
the calendar. -/
def isDate (cs : List Char) : Bool :=
  match cs with
  | [y1, y2, y3, y4, '-', m1, m2, '-', d1, d2] =>
    let year := digitsValue [y1, y2, y3, y4]
    let month := digitsValue [m1, m2]
    let day := digitsValue [d1, d2]
    [y1, y2, y3, y4, m1, m2, d1, d2].all isAsciiDigit && 1 ≤ day && day ≤ daysOfMonth year month
  | _ => false

end PromptScript
