import FieldRules.Text.Pieces
import FieldRules.Text.Whole
/-!
# Times of day

A time of day has two digits for each of its parts. The second 60 is a leap second: it can follow any
minute, it is written 60, and it counts as the second before it.
-/

namespace FieldRules

/-- A time of day. -/
structure Clock where
  hour : Nat
  minute : Nat
  second : Nat
  hour_lt : hour < 24
  minute_lt : minute < 60
  second_le : second ≤ 60
  deriving DecidableEq, Repr

namespace Clock

open FieldRules.Text

def midnight : Clock := ⟨0, 0, 0, by decide, by decide, by decide⟩

/-- The time with these parts, if a day has it. -/
def of? (hour minute second : Nat) : Option Clock :=
  if hh : hour < 24 then
    if hm : minute < 60 then
      if hs : second ≤ 60 then some ⟨hour, minute, second, hh, hm, hs⟩ else none
    else none
  else none

/-- Seconds since midnight; a leap second counts as the second 59. -/
def seconds (c : Clock) : Nat := 3600 * c.hour + 60 * c.minute + min c.second 59

/-- Hours and minutes with a colon between, then the seconds if they are wanted. -/
def text (withSeconds : Bool) (c : Clock) : String :=
  String.ofList (padded 2 c.hour ++ ':' :: padded 2 c.minute ++
    (if withSeconds then ':' :: padded 2 c.second else []))

/-- The number of a text of exactly two digits. -/
def twoDigits? : List Char → Option Nat
  | [a, b] => digits? [a, b]
  | _ => none

/-- The time that a text is the written form of. -/
def parse? (withSeconds : Bool) (s : String) : Option Clock :=
  match piecesBy (· == ':') s.toList, withSeconds with
  | [h, m], false => do of? (← twoDigits? h) (← twoDigits? m) 0
  | [h, m, s], true => do of? (← twoDigits? h) (← twoDigits? m) (← twoDigits? s)
  | _, _ => none

end Clock

end FieldRules
