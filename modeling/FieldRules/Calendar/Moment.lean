import FieldRules.Calendar.Clock
import FieldRules.Calendar.Date
/-!
# Moments

A date with a time of day, without a zone. Moments are written in four shapes: with a `T` or a blank
between date and time, and with or without seconds.
-/

namespace FieldRules

/-- A date and a time of day. -/
structure Moment where
  date : Date
  clock : Clock
  deriving DecidableEq, Repr

namespace Moment

/-- How a moment is written. -/
structure Shape where
  separator : Char
  withSeconds : Bool
  deriving DecidableEq, Repr

/-- The shapes that a form field takes. -/
def fieldShapes : List Shape := [⟨'T', false⟩, ⟨' ', true⟩]

/-- The shapes that a comparison takes. -/
def comparableShapes : List Shape := [⟨'T', false⟩, ⟨'T', true⟩, ⟨' ', false⟩, ⟨' ', true⟩]

/-- The moment that a text writes in a shape. -/
def parseAs? (shape : Shape) (s : String) : Option Moment := do
  let (date, clock) ← Text.cutOnce shape.separator s
  return ⟨← Date.parse? date, ← Clock.parse? shape.withSeconds clock⟩

/-- The moment that a text writes in one of the shapes; the first that fits. -/
def parse? (shapes : List Shape) (s : String) : Option Moment :=
  shapes.findSome? fun shape => parseAs? shape s

/-- The written form with a blank and seconds, in which leaves are delivered. -/
def text (m : Moment) : String := m.date.text ++ " " ++ m.clock.text true

def ofDate (d : Date) : Moment := ⟨d, .midnight⟩

/-- Seconds from 1970-01-01 00:00:00. -/
def timestamp (m : Moment) : Int := m.date.dayNumber * 86400 + m.clock.seconds

/-- The moment `n` seconds after 1970-01-01 00:00:00, if its year is in range. -/
def ofTimestamp? (n : Int) : Option Moment := do
  let date ← Date.ofDayNumber? (n / 86400)
  let s := (n % 86400).toNat
  let clock ← Clock.of? (s / 3600) (s / 60 % 60) (s % 60)
  return ⟨date, clock⟩

end Moment

end FieldRules
