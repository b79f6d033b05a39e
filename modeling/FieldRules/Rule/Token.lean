/-!
# Tokens

The vocabulary of rules: the tests, the modifiers that change what a test does, and the token that names
one test with its modifiers and values.
-/

namespace FieldRules

/-- A test that a rule names. -/
inductive Test where
  | alpha | alphaNumber | boolean | date | dateTime | email | enum | equal | extension | file
  | format | ignore | ip | json | length | max | maxLength | maxWords | mime | min | minLength
  | minWords | month | nenum | nequal | notNull | null | number | password | regex | required
  | size | string | tel | time | url | week
  /-- A name that no test answers to. -/
  | unknown (name : String)
  deriving DecidableEq, Repr

namespace Test

/-- The name of a test in messages. -/
def name : Test → String
  | .alpha => "Alpha"
  | .alphaNumber => "AlphaNumber"
  | .boolean => "Boolean"
  | .date => "Date"
  | .dateTime => "DateTime"
  | .email => "Email"
  | .enum => "Enum"
  | .equal => "Equal"
  | .extension => "Extension"
  | .file => "File"
  | .format => "Format"
  | .ignore => "Ignore"
  | .ip => "Ip"
  | .json => "Json"
  | .length => "Length"
  | .max => "Max"
  | .maxLength => "MaxLength"
  | .maxWords => "MaxWords"
  | .mime => "Mime"
  | .min => "Min"
  | .minLength => "MinLength"
  | .minWords => "MinWords"
  | .month => "Month"
  | .nenum => "Nenum"
  | .nequal => "Nequal"
  | .notNull => "NotNull"
  | .null => "Null"
  | .number => "Number"
  | .password => "Password"
  | .regex => "Regex"
  | .required => "Required"
  | .size => "Size"
  | .string => "String"
  | .tel => "Tel"
  | .time => "Time"
  | .url => "Url"
  | .week => "Week"
  | .unknown name => name

/-- The tests that act on the finished tree and not while fields are checked. -/
def isDeferred : Test → Bool
  | .format | .null | .notNull | .ignore => true
  | _ => false

/-- The tests whose only argument is a value and not a modifier. -/
def hasDirectValue : Test → Bool
  | .enum | .equal | .length | .min | .max | .minLength | .maxLength | .minWords | .maxWords
  | .regex | .size | .tel | .extension | .mime | .nequal | .nenum => true
  | _ => false

/-- The tests for which a field that was not sent takes part all the same. -/
def demandsPresence : Test → Bool
  | .required | .null | .notNull => true
  | _ => false

end Test

/-- A modifier of a test. -/
inductive Modifier where
  | only | cut | hash | domain | exist | array | any | strict | v4 | v6 | float | integer
  | string | round | boolean | dateTime
  /-- A word that means nothing to its test. -/
  | unknown (raw : String)
  deriving DecidableEq, Repr

/-- The name of a modifier in messages. -/
def Modifier.name : Modifier → String
  | .only => "only"
  | .cut => "cut"
  | .hash => "hash"
  | .domain => "domain"
  | .exist => "exist"
  | .array => "array"
  | .any => "any"
  | .strict => "strict"
  | .v4 => "v4"
  | .v6 => "v6"
  | .float => "float"
  | .integer => "integer"
  | .string => "string"
  | .round => "round"
  | .boolean => "boolean"
  | .dateTime => "datetime"
  | .unknown raw => raw

/-- One test of a rule, with its modifiers and values. -/
structure Token where
  test : Test
  modifiers : List Modifier := []
  values : List String := []
  deriving DecidableEq, Repr

def Token.has (t : Token) (m : Modifier) : Bool := t.modifiers.contains m

end FieldRules
