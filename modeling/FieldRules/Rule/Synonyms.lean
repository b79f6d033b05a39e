import FieldRules.Rule.Token
import FieldRules.Text.Ascii
import FieldRules.Text.Blank
import FieldRules.Text.Case
/-!
# Synonyms

The spellings that each test and each modifier answers to. Names of tests are compared without regard
to case, as simple case folding has it; names of modifiers ignore the case of ASCII letters only.
-/

namespace FieldRules

open FieldRules.Text

/-- The small ASCII letter that a character folds to. Besides the capitals, the long s and the kelvin
sign are the only characters whose folding is an ASCII letter. -/
def foldAscii (c : Char) : Char :=
  if c.toNat == 0x17F then 's' else if c.toNat == 0x212A then 'k' else c.toLower

namespace Test

/-- The spellings of each test. No spelling stands twice. -/
def spellings : List (Test × List String) := [
  (.ignore, ["ig", "ignore"]),
  (.alphaNumber, ["an", "alnum", "alphanum", "alphanumber", "alphanumeric", "alpha_num",
    "alpha_number", "alpha_numeric"]),
  (.alpha, ["a", "al", "alpha", "alphabetic"]),
  (.boolean, ["b", "bool", "boolean"]),
  (.dateTime, ["dt", "datetime", "date_time", "datetime-local"]),
  (.date, ["d", "date"]),
  (.email, ["e", "em", "mail", "email"]),
  (.nenum, ["ne", "nen", "nenum", "nin", "notin", "not_in"]),
  (.enum, ["en", "enum", "in"]),
  (.nequal, ["neq", "nequal", "notequal", "not_equal", "different"]),
  (.equal, ["eq", "equal", "equals", "same"]),
  (.extension, ["ext", "extension"]),
  (.file, ["fi", "file", "upload"]),
  (.format, ["f", "fo", "fmt", "format"]),
  (.ip, ["ip", "ipaddr", "ip_address"]),
  (.json, ["j", "js", "json"]),
  (.length, ["l", "len", "length"]),
  (.max, ["mx", "max", "maximum", "lte"]),
  (.min, ["mn", "min", "minimum", "gte"]),
  (.mime, ["mi", "mime", "mimetype", "mime_type"]),
  (.month, ["mo", "month"]),
  (.notNull, ["nn", "notnull", "not_null", "nonnull"]),
  (.null, ["nu", "null", "nullable"]),
  (.number, ["n", "num", "number", "numeric"]),
  (.password, ["p", "pw", "pass", "password"]),
  (.regex, ["re", "reg", "regex", "regexp", "pattern"]),
  (.required, ["r", "req", "required"]),
  (.size, ["si", "size", "filesize"]),
  (.string, ["s", "str", "string", "text"]),
  (.tel, ["t", "tel", "phone", "telephone"]),
  (.time, ["ti", "time"]),
  (.url, ["u", "url", "uri", "link"]),
  (.week, ["w", "week"])]

/-- Tests that answer to any word with one of these beginnings. -/
def beginnings : List (Test × List String) := [
  (.maxLength, ["mal", "maxl"]),
  (.minLength, ["mil", "minl"]),
  (.maxWords, ["maw", "maxw"]),
  (.minWords, ["miw", "minw"])]

/-- Is the folded name one of the beginnings, with word characters after it? -/
def beginsWith (name : List Char) (starts : List String) : Bool :=
  starts.any fun start => start.toList.isPrefixOf name && (name.drop start.length).all Unicode.isWord

/-- The test that answers to a name. A name that no test answers to gets a capital and fails later. -/
def ofName (raw : String) : Test :=
  let name := trim raw
  let folded := name.toList.map foldAscii
  match spellings.find? fun (_, names) => names.contains (String.ofList folded) with
  | some (test, _) => test
  | none =>
    match beginnings.find? fun (_, starts) => beginsWith folded starts with
    | some (test, _) => test
    | none => .unknown (capitalized name)

/-- The modifiers of a test with their spellings. -/
def modifiers : Test → List (Modifier × List String)
  | .number => [(.only, ["o", "only"]), (.float, ["f", "fl", "float"]),
      (.integer, ["i", "int", "integer"])]
  | .alpha | .alphaNumber => [(.only, ["o", "only"])]
  | .length | .maxLength | .minLength => [(.cut, ["c", "cut"])]
  | .password => [(.hash, ["h", "hash"])]
  | .email => [(.domain, ["d", "domain", "dns", "mx"])]
  | .url => [(.exist, ["e", "exist", "exists", "check"])]
  | .enum | .nenum => [(.array, ["a", "arr", "array"]), (.any, ["an", "any"]), (.only, ["o", "only"])]
  | .json => [(.array, ["a", "arr", "array"])]
  | .extension => [(.strict, ["s", "strict"])]
  | .ip => [(.v4, ["4", "v4", "ipv4"]), (.v6, ["6", "v6", "ipv6"])]
  | .format => [(.string, ["s", "str", "string"]), (.integer, ["i", "int", "integer"]),
      (.float, ["f", "float"]), (.round, ["r", "round"]), (.boolean, ["b", "bool", "boolean"]),
      (.dateTime, ["d", "dt", "date", "datetime"])]
  | _ => []

/-- The modifier that a word means to a test. The same word can mean different modifiers. -/
def modifier (test : Test) (raw : String) : Modifier :=
  let key := asciiLower (trim raw)
  match test.modifiers.find? fun (_, names) => names.contains key with
  | some (m, _) => m
  | none => .unknown key

/-- Does a word name a modifier of a test? -/
def knows (test : Test) (raw : String) : Bool :=
  match test.modifier raw with
  | .unknown _ => false
  | _ => true

end Test

end FieldRules
