import FieldRules.Pattern.Expr
import FieldRules.Text.Blank
import FieldRules.Unicode.Case
/-!
# Modes of a pattern

The flags that hold at a place of a pattern, and what they change: whether blanks and comments are
skipped, and whether classes are closed under case.
-/

namespace FieldRules.Pattern

open FieldRules.Unicode

/-- What can be wrong with a pattern. -/
inductive Flaw where
  | unclosedGroup | unopenedGroup | lookAround | groupName | groupNameTwice
  | flag | nothingToRepeat | repetition | escape | hexEscape | backreference | boundaryName
  | unclosedClass | classRange | classItem | unknownClass
  /-- The pattern could match part of a character. -/
  | partOfCharacter
  | tooDeep | tooLarge
  deriving DecidableEq, Repr

def Flaw.message : Flaw → String
  | .unclosedGroup => "a group is not closed"
  | .unopenedGroup => "a group is closed that was not opened"
  | .lookAround => "look-around is not supported"
  | .groupName => "a group has no valid name"
  | .groupNameTwice => "two groups have the same name"
  | .flag => "a flag is unknown, repeated or missing"
  | .nothingToRepeat => "a repetition has nothing to repeat"
  | .repetition => "a repetition is not well formed"
  | .escape => "an escape is unknown"
  | .hexEscape => "an escape has no valid code"
  | .backreference => "references to groups are not supported"
  | .boundaryName => "a word boundary has no valid name"
  | .unclosedClass => "a class is not closed"
  | .classRange => "a range of a class is not valid"
  | .classItem => "a class holds something that is no character"
  | .unknownClass => "a property is unknown"
  | .partOfCharacter => "the pattern can match part of a character"
  | .tooDeep => "the pattern is nested too deeply"
  | .tooLarge => "the pattern is too large"

/-- The flags in force. -/
structure Mode where
  caseless : Bool := false
  multiline : Bool := false
  dotAll : Bool := false
  /-- A carriage return ends lines too. -/
  crlf : Bool := false
  /-- Classes know all of Unicode and not ASCII only. -/
  unicode : Bool := true
  /-- Blanks and comments of the pattern mean nothing. -/
  spaced : Bool := false
  deriving DecidableEq, Repr

namespace Mode

def words (m : Mode) : WordClass := if m.unicode then .unicode else .ascii

/-- The rest of a pattern after blanks and `#` comments. -/
def skipBlanks (inComment : Bool) : List Char → List Char
  | [] => []
  | c :: cs =>
    if inComment then skipBlanks (c != '\n') cs
    else if Text.isBlank c then skipBlanks false cs
    else if c == '#' then skipBlanks true cs
    else c :: cs

/-- The rest of a pattern after what means nothing. -/
def skip (m : Mode) (cs : List Char) : List Char := if m.spaced then skipBlanks false cs else cs

/-- The first character after blanks and the `#` of a comment. -/
def peekBlanks (inComment : Bool) : List Char → Option Char
  | [] => none
  | c :: cs =>
    if Text.isBlank c then peekBlanks (inComment && c != '\n') cs
    else if !inComment && c == '#' then peekBlanks true cs
    else some c

/-- The character that comes next; if only blanks are left, the first of them. -/
def peek (m : Mode) (cs : List Char) : Option Char :=
  if m.spaced then (peekBlanks false cs).or cs.head? else cs.head?

/-- All characters equal to one of the set without regard to case. -/
def closeCase (m : Mode) (s : CharSet) : CharSet :=
  if m.unicode then fun c => (orbit c).any s
  else fun c => s c || s c.toLower || s c.toUpper

/-- The class that a set stands for: closed under case if case is ignored, and then turned round. -/
def classOf (m : Mode) (negated : Bool) (s : CharSet) : CharSet :=
  let s := if m.caseless then m.closeCase s else s
  if negated then s.complement else s

/-- Without Unicode a class may hold ASCII characters only, else it could match part of a character. -/
def checkClass (m : Mode) (s : CharSet) : Except Flaw CharSet :=
  if m.unicode || (List.range 128).all fun i => !s (Char.ofNat (128 + i)) then .ok s
  else .error .partOfCharacter

/-- A character that a pattern may write as itself: without Unicode only an ASCII character. -/
def checkChar (m : Mode) (c : Char) : Except Flaw Char :=
  if m.unicode || c.toNat < 0x80 then .ok c else .error .partOfCharacter

end Mode

end FieldRules.Pattern
