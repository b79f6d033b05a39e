import FieldRules.Text.Pieces
import FieldRules.Text.Whole
/-!
# Dates

Dates of the proleptic Gregorian calendar, counted in days from 1970-01-01. A date is read only in the
one form in which it is written, so what is read can be written back to the same text.
-/

namespace FieldRules

/-- Every fourth year, but of the centuries only every fourth. -/
def isLeapYear (y : Int) : Bool := y % 4 = 0 && (y % 100 ≠ 0 || y % 400 = 0)

/-- Days of a month, 1 to 12. -/
def daysInMonth (y : Int) (m : Nat) : Nat :=
  if m = 2 then (if isLeapYear y then 29 else 28)
  else if m = 4 || m = 6 || m = 9 || m = 11 then 30
  else 31

/-- A date of a year between -262143 and 262142. -/
structure Date where
  year : Int
  month : Nat
  day : Nat
  year_range : -262143 ≤ year ∧ year ≤ 262142
  month_range : 1 ≤ month ∧ month ≤ 12
  day_range : 1 ≤ day ∧ day ≤ daysInMonth year month
  deriving DecidableEq, Repr

namespace Date

open FieldRules.Text

/-- The date with these parts, if the calendar has it. -/
def of? (year : Int) (month day : Nat) : Option Date :=
  if hy : -262143 ≤ year ∧ year ≤ 262142 then
    if hm : 1 ≤ month ∧ month ≤ 12 then
      if hd : 1 ≤ day ∧ day ≤ daysInMonth year month then
        some ⟨year, month, day, hy, hm, hd⟩
      else none
    else none
  else none

/-! ## Counting days -/

/-- Days from 0001-01-01 to the first day of a year. -/
def daysBeforeYear (y : Int) : Int :=
  let p := y - 1
  365 * p + p / 4 - p / 100 + p / 400

/-- Days from the first day of a year to the first day of a month. -/
def daysBeforeMonth (y : Int) : (m : Nat) → Nat
  | 0 | 1 => 0
  | m + 2 => daysBeforeMonth y (m + 1) + daysInMonth y (m + 1)

/-- Days from 1970-01-01. -/
def dayNumber (d : Date) : Int :=
  daysBeforeYear d.year + daysBeforeMonth d.year d.month + (d.day - 1 : Nat) - 719162

/-- The month and day of the day `n` of a year, counted from zero; looks from month `m` on. -/
def monthAndDay (y : Int) (n : Nat) (m : Nat) : (months : Nat) → Nat × Nat
  | 0 => (m, n + 1)
  | months + 1 =>
    if n < daysInMonth y m then (m, n + 1) else monthAndDay y (n - daysInMonth y m) (m + 1) months

/-- The date that stands `n` days after 1970-01-01. The year is one of the neighbours of the estimate by
the mean length of a year. -/
def ofDayNumber? (n : Int) : Option Date :=
  let k := n + 719162
  let guess := k * 400 / 146097 + 1
  let y := if daysBeforeYear (guess + 1) ≤ k then guess + 1
    else if daysBeforeYear guess ≤ k then guess else guess - 1
  let (m, d) := monthAndDay y (k - daysBeforeYear y).toNat 1 12
  of? y m d

/-- The day of the week, from Monday = 0. 1970-01-01 was a Thursday. -/
def weekday (n : Int) : Int := (n + 3) % 7

/-! ## Text -/

/-- A year between 0 and 9999 has four digits; any other has a sign and at least four. -/
def yearText (y : Int) : List Char :=
  if 0 ≤ y ∧ y ≤ 9999 then padded 4 y.toNat
  else (if y < 0 then '-' else '+') :: padded 4 y.natAbs

/-- Written as year, month and day with hyphens between. -/
def text (d : Date) : String :=
  String.ofList (yearText d.year ++ '-' :: padded 2 d.month ++ '-' :: padded 2 d.day)

instance : ToString Date := ⟨text⟩

/-- Year, month and day of a text, in whatever number of digits. -/
def parts? (cs : List Char) : Option (Int × Nat × Nat) :=
  let (negative, body) := match cs with
    | '-' :: cs => (true, cs)
    | '+' :: cs => (false, cs)
    | cs => (false, cs)
  match piecesBy (· == '-') body with
  | [y, m, d] => do
    let y ← digits? y
    let m ← digits? m
    let d ← digits? d
    return (if negative then -(y : Int) else y, m, d)
  | _ => none

/-- The date that a text is the written form of. -/
def parse? (s : String) : Option Date := do
  let (y, m, d) ← parts? s.toList
  let date ← of? y m d
  if date.text = s then some date else none

theorem text_of_parse {s : String} {d : Date} (h : parse? s = some d) : d.text = s := by
  simp only [parse?, Option.bind_eq_bind, Option.bind_eq_some_iff] at h
  obtain ⟨_, _, _, _, h⟩ := h
  split at h <;> simp_all

end Date

end FieldRules
