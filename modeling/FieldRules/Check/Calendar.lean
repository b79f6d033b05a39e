import FieldRules.Calendar.Period
import FieldRules.Check.Basic
/-!
# Tests of dates and times

White space around the text is passed over; the rest must be the written form of a date, a moment, a time,
a week or a month.
-/

namespace FieldRules.Check

/-- Accepts a text that reads, without its outer blanks. -/
def reads {α : Type} (read : String → Option α) (fault : Fault) (s : Subject) : Except Fault Outcome :=
  match s.text? with
  | some text => accept (read (Text.trim text)).isSome fault
  | none => .error fault

def date : Subject → Except Fault Outcome := reads Date.parse? .notDate

def dateTime : Subject → Except Fault Outcome := reads (Moment.parse? Moment.fieldShapes) .notMoment

def time : Subject → Except Fault Outcome :=
  reads (fun s => (Clock.parse? false s).or (Clock.parse? true s)) .notTime

def week : Subject → Except Fault Outcome := reads Period.parseWeek? .notWeek

def month : Subject → Except Fault Outcome := reads Period.parseMonth? .notMonth

end FieldRules.Check
