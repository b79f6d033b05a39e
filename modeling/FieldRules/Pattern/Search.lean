import FieldRules.Pattern.Expr
/-!
# Searching a text

A set of places in a text is a number whose bit `i` stands for the place after `i` characters. An
expression maps the places where a match can begin to the places where it can end; a text matches if
that set is not empty for all its places. Every step only moves places on, so a repetition is settled
after as many rounds as there are places.
-/

namespace FieldRules.Pattern

open FieldRules.Unicode

/-- An expression whose classes and conditions are replaced by the places of one text where they hold. -/
inductive Steps where
  | stay
  /-- Goes on by one character from these places. -/
  | advance (places : Nat)
  /-- Stays in these places. -/
  | only (places : Nat)
  | both (first second : Steps)
  | either (first second : Steps)
  | repeated (body : Steps) (min : Nat) (max : Option Nat)

/-- The places before the characters that belong to a class, counted from bit `i`. -/
def placesBefore (s : CharSet) (i : Nat) : List Char → Nat
  | [] => 0
  | c :: cs => (if s c then 1 <<< i else 0) ||| placesBefore s (i + 1) cs

/-- The places where a condition holds, counted from bit `i`, after the character `before`. -/
def placesOf (l : Look) (i : Nat) (before : Option Char) : List Char → Nat
  | [] => if l.holds before none then 1 <<< i else 0
  | c :: cs => (if l.holds before (some c) then 1 <<< i else 0) ||| placesOf l (i + 1) (some c) cs

/-- The steps of an expression on a text. -/
def Expr.on (cs : List Char) : Expr → Steps
  | .empty => .stay
  | .one s => .advance (placesBefore s 0 cs)
  | .look l => .only (placesOf l 0 none cs)
  | .both a b => .both (a.on cs) (b.on cs)
  | .either a b => .either (a.on cs) (b.on cs)
  | .repeated e min max => .repeated (e.on cs) min max

/-- The result of `n` rounds of `step`, stopping where a round changes nothing. -/
def rounds (step : Nat → Nat) : (n : Nat) → Nat → Nat
  | 0, places => places
  | n + 1, places =>
    let next := step places
    if next = places then places else rounds step n next

/-- All places within `n` rounds of the places in `fresh`, together with those in `seen`. -/
def reach (step : Nat → Nat) : (n : Nat) → (seen fresh : Nat) → Nat
  | 0, seen, _ => seen
  | n + 1, seen, fresh =>
    let next := step fresh
    let new := next ^^^ (next &&& seen)
    if new = 0 then seen else reach step n (seen ||| new) new

/-- The places where a match can end that begins in one of the given places; `count` is the number of
places of the text. -/
def Steps.run (count : Nat) : Steps → Nat → Nat
  | .stay, places => places
  | .advance from_, places => (places &&& from_) <<< 1
  | .only at_, places => places &&& at_
  | .both a b, places => b.run count (a.run count places)
  | .either a b, places => a.run count places ||| b.run count places
  | .repeated e min max, places =>
    let start := rounds (e.run count) (Nat.min min count) places
    let more := match max with
      | none => count
      | some max => Nat.min (max - min) count
    reach (e.run count) more start start

/-- Does the expression match somewhere in the text? -/
def Expr.matchesIn (e : Expr) (s : String) : Bool :=
  let cs := s.toList
  let count := cs.length + 1
  (e.on cs).run count ((1 <<< count) - 1) != 0

end FieldRules.Pattern
