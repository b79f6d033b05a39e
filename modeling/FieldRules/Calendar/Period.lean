import FieldRules.Calendar.Date
/-!
# Weeks, months and years

Each is read as its first day: the Monday of a week of ISO 8601, the first of a month, the first of
January. Years have four digits.
-/

namespace FieldRules.Period

open FieldRules.Text

/-- The number of a text of exactly `n` digits. -/
def digitsOf? (n : Nat) (cs : List Char) : Option Nat :=
  if cs.length = n then digits? cs else none

/-- The day number of the Monday of the first week of a year: the week that holds January 4. -/
def firstMonday (year : Nat) : Int :=
  let jan4 := Date.daysBeforeYear year + 3 - 719162
  jan4 - Date.weekday jan4

/-- How many weeks begin in a year of ISO 8601: 52 or 53. -/
def weeksIn (year : Nat) : Int := (firstMonday (year + 1) - firstMonday year) / 7

/-- The Monday of a week written as year, `-W` and the number of the week. -/
def parseWeek? (s : String) : Option Date :=
  match piecesBy (· == '-') s.toList with
  | [y, 'W' :: w] => do
    let year ← digitsOf? 4 y
    let week ← digitsOf? 2 w
    if 1 ≤ week ∧ (week : Int) ≤ weeksIn year then
      Date.ofDayNumber? (firstMonday year + 7 * (week - 1 : Nat))
    else none
  | _ => none

/-- The first day of a month written as year, `-` and the number of the month. -/
def parseMonth? (s : String) : Option Date :=
  match piecesBy (· == '-') s.toList with
  | [y, m] => do Date.of? (← digitsOf? 4 y) (← digitsOf? 2 m) 1
  | _ => none

/-- The first day of a year. -/
def parseYear? (s : String) : Option Date := do
  Date.of? (← digitsOf? 4 s.toList) 1 1

end FieldRules.Period
