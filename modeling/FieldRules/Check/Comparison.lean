import FieldRules.Calendar.Period
import FieldRules.Check.Number
/-!
# Comparisons

A text can be read as a value of several kinds: `2024` is a number and a year. Both sides of a comparison
are read as every kind they can be; the first pair of kinds that can be compared decides.
-/

namespace FieldRules

open FieldRules.Text

/-- What a text can be read as. -/
inductive Reading where
  | number
  /-- Seconds from 1970 after an `@`. -/
  | timestamp
  | date
  | dateTime
  | time
  | timeWithSeconds
  | week
  | month
  | year
  deriving DecidableEq, Repr

namespace Reading

/-- Is the second kind listed as a partner of the first? -/
def linked : Reading → Reading → Bool
  | .number, .timestamp => true
  | .timestamp, b => [.number, .date, .dateTime, .week, .month, .year].contains b
  | .date, b => [.dateTime, .week, .month, .year, .timestamp].contains b
  | .time, .timeWithSeconds => true
  | _, _ => false

/-- Can values of the two kinds be compared? -/
def comparable (a b : Reading) : Bool := a == b || linked a b || linked b a

end Reading

/-- A value as a number on the scale of its kind: itself, seconds from 1970, or seconds from midnight. -/
structure Sample where
  reading : Reading
  scalar : Binary64
  deriving DecidableEq, Repr

/-- The first second of a day, from 1970. -/
def epochSeconds (d : Date) : Binary64 := .ofInt (d.dayNumber * 86400)

def clockSeconds (c : Clock) : Binary64 := .ofInt c.seconds

/-- Seconds from 1970, after an `@`. -/
def timestamp? (s : String) : Option Int :=
  (afterStart ['@'] s.toList).bind fun cs => int64? (String.ofList cs)

/-- The value of a text as each kind, in the order in which kinds are tried. -/
def scalar? (s : String) : Reading → Option Binary64
  | .number =>
    let text := normalizeDecimal s
    if isNumeric text then (Binary64.read? text).filter Binary64.isFinite else none
  | .timestamp => (timestamp? s).map .ofInt
  | .date => (Date.parse? s).map epochSeconds
  | .dateTime => (Moment.parse? Moment.comparableShapes s).map fun m => .ofInt m.timestamp
  | .time => (Clock.parse? false s).map clockSeconds
  | .timeWithSeconds => (Clock.parse? true s).map clockSeconds
  | .week => (Period.parseWeek? s).map epochSeconds
  | .month => (Period.parseMonth? s).map epochSeconds
  | .year => (Period.parseYear? s).map epochSeconds

def readings : List Reading :=
  [.number, .timestamp, .date, .dateTime, .time, .timeWithSeconds, .week, .month, .year]

/-- Every value that a text can be read as. -/
def sniff (s : String) : List Sample :=
  let s := trim s
  readings.filterMap fun r => (scalar? s r).map fun x => ⟨r, x⟩

/-- The first pair of comparable values: the values of the text in order, each with the values of the
threshold in order. -/
def comparablePair (value threshold : String) : Except Fault (Binary64 × Binary64) :=
  let limits := sniff threshold
  if limits.isEmpty then .error (.unknownThreshold threshold) else
  let values := sniff value
  if values.isEmpty then .error (.unknownKind value) else
  let pair := values.findSome? fun v =>
    (limits.find? fun l => v.reading.comparable l.reading).map fun l => (v.scalar, l.scalar)
  match pair with
  | some p => .ok p
  | none => .error (.incomparable value threshold)

namespace Check

/-- Compares a subject with the threshold of a token. -/
def bound (t : Token) (s : Subject) (holds : Binary64 → Binary64 → Bool) (fault : String → Fault) :
    Except Fault Outcome := do
  let threshold ← t.joinedValue
  let some text := s.text? | throw .notComparable
  let (x, limit) ← comparablePair text threshold
  accept (holds x limit) (fault threshold)

/-- Accepts what is not above the threshold. -/
def atMost (t : Token) (s : Subject) : Except Fault Outcome := bound t s (fun x y => x.le y) .tooGreat

/-- Accepts what is not below the threshold. -/
def atLeast (t : Token) (s : Subject) : Except Fault Outcome := bound t s (fun x y => y.le x) .tooSmall

end Check

end FieldRules
