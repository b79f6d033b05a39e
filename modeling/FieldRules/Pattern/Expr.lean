import FieldRules.Unicode.Property
/-!
# Regular expressions

What a pattern means: characters of a class, conditions on the place between two characters, and the
ways to combine them. An expression is asked only whether it matches somewhere in a text, so groups,
greed and the order of alternatives leave no trace in it.
-/

namespace FieldRules.Pattern

open FieldRules.Unicode

/-- Which characters make words. -/
inductive WordClass where
  | unicode
  | ascii
  deriving DecidableEq, Repr

/-- The word characters `0`-`9`, `A`-`Z`, `a`-`z` and `_`. -/
def isAsciiWord (c : Char) : Bool := Text.isAsciiDigit c || Text.isAsciiLetter c || c == '_'

def WordClass.has : WordClass → CharSet
  | .unicode => isWord
  | .ascii => isAsciiWord

/-- A condition on a place in a text. -/
inductive Look where
  | textStart
  | textEnd
  /-- The start of a line; with `crlf`, a carriage return ends lines too. -/
  | lineStart (crlf : Bool)
  | lineEnd (crlf : Bool)
  /-- Exactly one of the neighbours makes words. -/
  | boundary (w : WordClass)
  | noBoundary (w : WordClass)
  | wordStart (w : WordClass)
  | wordEnd (w : WordClass)
  /-- The character before makes no words. -/
  | wordStartHalf (w : WordClass)
  /-- The character after makes no words. -/
  | wordEndHalf (w : WordClass)
  deriving DecidableEq, Repr

/-- Does the condition hold between two neighbours? At the ends of the text one of them is missing. -/
def Look.holds (before after : Option Char) : Look → Bool
  | .textStart => before.isNone
  | .textEnd => after.isNone
  | .lineStart false => before.isNone || before == some '\n'
  | .lineEnd false => after.isNone || after == some '\n'
  | .lineStart true =>
    before.isNone || before == some '\n' || (before == some '\r' && after != some '\n')
  | .lineEnd true =>
    after.isNone || after == some '\r' || (after == some '\n' && before != some '\r')
  | .boundary w => before.any w.has != after.any w.has
  | .noBoundary w => before.any w.has == after.any w.has
  | .wordStart w => !before.any w.has && after.any w.has
  | .wordEnd w => before.any w.has && !after.any w.has
  | .wordStartHalf w => !before.any w.has
  | .wordEndHalf w => !after.any w.has

/-- A regular expression. -/
inductive Expr where
  /-- Matches the empty text. -/
  | empty
  /-- Matches one character of a class. -/
  | one (s : CharSet)
  | look (l : Look)
  | both (first second : Expr)
  | either (first second : Expr)
  /-- Matches at least `min` times and, if there is a limit, at most `max` times in a row. -/
  | repeated (body : Expr) (min : Nat) (max : Option Nat)

namespace Expr

/-- Matches all expressions of a list one after another. -/
def sequence : List Expr → Expr
  | [] => .empty
  | [e] => e
  | e :: es => .both e (sequence es)

/-- Matches one expression of a list. -/
def choice : List Expr → Expr
  | [] => .empty
  | [e] => e
  | e :: es => .either e (choice es)

/-- The number of states of an automaton in which every repetition is written out: as many copies as
must match, and an optional one for each that may. -/
def states : Expr → Nat
  | .empty => 0
  | .one _ | .look _ => 1
  | .both a b => a.states + b.states
  | .either a b => a.states + b.states + 1
  | .repeated e low none => Nat.max low 1 * e.states + 1
  | .repeated e low (some high) => low * e.states + (high - low) * (e.states + 1)

end Expr

end FieldRules.Pattern
