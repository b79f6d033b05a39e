import FieldRules.Text.Ascii
import FieldRules.Text.Pieces
/-!
# Delimited patterns

A pattern in a rule is bare, or stands between two equal delimiters with flags behind the second. The
second delimiter is the last one that only letters follow. What the expression between them means is left
to a dialect.
-/

namespace FieldRules.Pattern

open FieldRules.Text

/-- A dialect of regular expressions: for an expression, the texts that hold a match, or what is wrong with it. -/
abbrev Dialect : Type := String → Except String (String → Bool)

/-- The characters that open and close a delimited pattern. -/
def delimiters : List Char := ['/', '#', '~', '!', '@', '%', '\x60']

def isDelimiter (c : Char) : Bool := delimiters.contains c

/-- Why a pattern in a rule cannot be used. -/
inductive Malformed where
  | unbalanced (raw : String)
  | unsupportedFlag (c : Char)
  /-- The dialect does not have the expression. -/
  | flaw (why : String)
  deriving DecidableEq, Repr

def Malformed.message : Malformed → String
  | .unbalanced raw => "unbalanced delimiter in '" ++ raw ++ "'"
  | .unsupportedFlag c => "unsupported flag '" ++ String.singleton c ++ "'"
  | .flaw why => why

/-- The body and the flags of a pattern in a rule. -/
def splitDelimited (raw : String) : Except Malformed (List Char × List Char) :=
  match raw.toList with
  | [] => .ok ([], [])
  | c :: rest =>
    if !isDelimiter c then .ok (c :: rest, []) else
    match cutAt (· == c) rest.reverse with
    | some (flags, body) =>
      if flags.all isAsciiLetter then .ok (body.reverse, flags.reverse) else .error (.unbalanced raw)
    | none => .error (.unbalanced raw)

/-- The flags of patterns in rules. -/
def ruleFlags : List Char := ['i', 'm', 's', 'x', 'U', 'u']

/-- The first flag that patterns in rules do not have. -/
def foreignFlag? (flags : List Char) : Option Char := flags.find? fun c => !ruleFlags.contains c

/-- The texts that hold a match of a pattern in a rule. The flags are written before the expression; the flag `u`
says what holds anyway. -/
def compile (dialect : Dialect) (raw : String) : Except Malformed (String → Bool) := do
  let (body, flags) ← splitDelimited raw
  match foreignFlag? flags with
  | some c => .error (.unsupportedFlag c)
  | none =>
    let set := flags.filter (· != 'u')
    let source := if set.isEmpty then body else '(' :: '?' :: set ++ ')' :: body
    (dialect (String.ofList source)).mapError .flaw

end FieldRules.Pattern
