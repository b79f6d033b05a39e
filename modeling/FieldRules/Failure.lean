import FieldRules.Pattern.Delimited
import FieldRules.Rule.Token
import FieldRules.Text.Pieces
import FieldRules.Text.Whole
/-!
# Failures

A fault says why a rule or a value is refused; its kind, its number and its wording are functions of it.
A failure is a fault at a field. The first path that is attached to a failure stays.
-/

namespace FieldRules

/-- Who is to blame for a failure. -/
inductive Kind where
  /-- The rules make no sense. -/
  | grammar
  /-- The data break a rule. -/
  | data
  /-- The engine could not finish. -/
  | internal
  deriving DecidableEq, Repr

/-- The status code of each kind. -/
def Kind.code : Kind → Nat
  | .grammar => 400
  | .data => 422
  | .internal => 500

/-- What a conversion makes of a leaf. -/
inductive Target where
  | string
  | integer
  | float
  /-- A float with so many decimals. -/
  | round (precision : Nat)
  | boolean
  | dateTime
  deriving DecidableEq, Repr

/-- The name of a target in messages, with its article. -/
def Target.name : Target → String
  | .string => "a string"
  | .integer => "an integer"
  | .float => "a float"
  | .round _ => "a rounded float"
  | .boolean => "a boolean"
  | .dateTime => "a date-time"

/-- Why something is refused. -/
inductive Fault where
  -- Faults of rules.
  | unknownTest (name : String)
  | unsupportedModifier (test modifier : String)
  | formatWithoutTarget
  | missingValue (test : String)
  | malformedPattern (why : Pattern.Malformed)
  | malformedSize (raw : String)
  | unknownSetting (name : String)
  | settingWithoutValue (name : String)
  | settingNotBoolean (name value : String)
  | notCount (test raw : String)
  | precisionTooLarge
  | unknownThreshold (raw : String)
  | unsupportedRegion (region : String)
  | rulesNotObject
  -- Faults of values.
  | incomparable (value threshold : String)
  | unknownKind (value : String)
  | notComparable
  /-- A test of texts was given an upload. -/
  | textExpected (test : Test)
  /-- A test of uploads was given a text. -/
  | uploadExpected (test : Test)
  | notLetters
  | notLettersOrDigits
  | notBoolean
  | notDate
  | notMoment
  | notTime
  | notWeek
  | notMonth
  | notEmail
  | domainRefusesMail (domain : String)
  | domainUnverified (domain : String)
  | notListed (list : List String)
  | listed (list : List String)
  | different (expected : String)
  | forbidden (text : String)
  | extensionNotAllowed (list : List String)
  | typeNotAllowed (detected : String) (list : List String)
  | unreadable (name : String)
  | notUpload
  | uploadFailed (code : Int)
  | notUploaded (name : String)
  | notIp
  | notAddress (v6 : Bool)
  | notJsonText
  | notJson (why : String)
  | notCollection
  | wrongLength (low high : Nat)
  | tooLong (limit : Nat)
  | tooShort (limit : Nat)
  | tooManyWords (limit : Nat)
  | tooFewWords (limit : Nat)
  | tooGreat (threshold : String)
  | tooSmall (threshold : String)
  | notNumber
  | holdsNoNumber
  | notNumeral (raw : String)
  | outsideIntegers (raw : String)
  | outsideFloats (raw : String)
  | weakPassword
  | noMatch
  | tooLarge (limit : String)
  | notPhone
  | notUrl
  | notPage (url : String)
  | notReachable (url : String)
  | notConvertible (value : String) (target : Target)
  | uploadMissing
  | valueMissing
  | notText
  -- Faults of the engine.
  | unhashed (why : String)
  /-- A fault that a caller words itself. -/
  | custom (kind : Kind) (id message : String)
  deriving DecidableEq, Repr

/-- The number of a test's own fault. -/
def Test.faultId : Test → String
  | .alpha => "vE031"
  | .alphaNumber => "vE033"
  | .password => "vE093"
  | .regex => "vE095"
  | .length => "vE075"
  | .maxLength => "vE081"
  | .minLength => "vE083"
  | .maxWords => "vE085"
  | .minWords => "vE087"
  | .extension => "vE059"
  | .mime => "vE061"
  | .size => "vE097"
  | _ => "vE113"

namespace Fault

def kind : Fault → Kind
  | .unknownTest _ | .unsupportedModifier .. | .formatWithoutTarget | .missingValue _
  | .malformedPattern _ | .malformedSize _ | .unknownSetting _ | .settingWithoutValue _
  | .settingNotBoolean .. | .notCount .. | .precisionTooLarge | .unknownThreshold _
  | .unsupportedRegion _ | .rulesNotObject => .grammar
  | .unhashed _ => .internal
  | .custom kind _ _ => kind
  | _ => .data

/-- The number under which callers know a fault. -/
def id : Fault → String
  | .unknownTest _ => "vE001"
  | .unsupportedModifier .. | .formatWithoutTarget => "vE002"
  | .missingValue _ => "vE004"
  | .malformedPattern _ => "vE006"
  | .malformedSize _ => "vE008"
  | .unknownSetting _ => "vE010"
  | .settingWithoutValue _ => "vE012"
  | .settingNotBoolean .. => "vE014"
  | .notCount .. | .precisionTooLarge => "vE016"
  | .incomparable .. => "vE018"
  | .unknownThreshold _ => "vE020"
  | .unknownKind _ | .notComparable => "vE021"
  | .unsupportedRegion _ => "vE022"
  | .unhashed _ => "vE024"
  | .rulesNotObject => "vE026"
  | .textExpected test | .uploadExpected test => test.faultId
  | .notLetters => "vE031"
  | .notLettersOrDigits => "vE033"
  | .notBoolean => "vE035"
  | .notDate => "vE037"
  | .notMoment => "vE039"
  | .notTime => "vE041"
  | .notWeek => "vE043"
  | .notMonth => "vE045"
  | .notEmail => "vE047"
  | .domainRefusesMail _ | .domainUnverified _ => "vE049"
  | .notListed _ => "vE051"
  | .listed _ => "vE053"
  | .different _ => "vE055"
  | .forbidden _ => "vE057"
  | .extensionNotAllowed _ => "vE059"
  | .typeNotAllowed .. | .unreadable _ => "vE061"
  | .notUpload => "vE063"
  | .uploadFailed _ => "vE065"
  | .notUploaded _ => "vE067"
  | .notIp | .notAddress _ => "vE069"
  | .notJsonText | .notJson _ => "vE071"
  | .notCollection => "vE073"
  | .wrongLength .. => "vE075"
  | .tooGreat _ => "vE077"
  | .tooSmall _ => "vE079"
  | .tooLong _ => "vE081"
  | .tooShort _ => "vE083"
  | .tooManyWords _ => "vE085"
  | .tooFewWords _ => "vE087"
  | .notNumber | .holdsNoNumber | .notNumeral _ => "vE089"
  | .outsideIntegers _ | .outsideFloats _ => "vE091"
  | .weakPassword => "vE093"
  | .noMatch => "vE095"
  | .tooLarge _ => "vE097"
  | .notPhone => "vE099"
  | .notUrl => "vE101"
  | .notPage _ | .notReachable _ => "vE103"
  | .notConvertible .. => "vE105"
  | .uploadMissing => "vE109"
  | .valueMissing => "vE112"
  | .notText => "vE113"
  | .custom _ id _ => id

/-- What a failed upload says, by its error code. -/
def uploadMessage (code : Int) : String :=
  if code = 1 ∨ code = 2 then "The uploaded file is too large"
  else if code = 3 then "The file was only partially uploaded"
  else if code = 6 then "The server has no temporary folder for uploads"
  else if code = 7 then "The uploaded file could not be written to disk"
  else if code = 8 then "The upload was stopped by a server extension"
  else "The file upload failed"

def message : Fault → String
  | .unknownTest name => "Test '" ++ name ++ "' does not exist"
  | .unsupportedModifier test modifier =>
    "Modifier '" ++ modifier ++ "' is not supported by test '" ++ test ++ "'"
  | .formatWithoutTarget =>
    "Test 'Format' needs a target (string, integer, float, round, boolean, datetime)"
  | .missingValue test => "Test '" ++ test ++ "' requires a value"
  | .malformedPattern why => "Malformed regex: " ++ why.message
  | .malformedSize raw => "Malformed size '" ++ raw ++ "'"
  | .unknownSetting name => "Unknown configuration setting '" ++ name ++ "'"
  | .settingWithoutValue name => "Configuration setting '" ++ name ++ "' needs a value"
  | .settingNotBoolean name value =>
    "Configuration setting '" ++ name ++ "' must be a boolean, got '" ++ value ++ "'"
  | .notCount test raw => "Test '" ++ test ++ "' expects a whole number, got '" ++ raw ++ "'"
  | .precisionTooLarge => "Format precision is too large"
  | .unknownThreshold raw => "Cannot determine the type of threshold '" ++ raw ++ "'"
  | .unsupportedRegion region => "Telephone region '" ++ region ++ "' is not supported"
  | .rulesNotObject => "Rules must be an object keyed by field name"
  | .incomparable value threshold =>
    "Value '" ++ value ++ "' cannot be compared with '" ++ threshold ++ "'"
  | .unknownKind value => "Cannot determine the type of value '" ++ value ++ "'"
  | .notComparable => "Only text values can be compared"
  | .textExpected test => test.name ++ " expects a text value, got a file"
  | .uploadExpected test => test.name ++ " requires an uploaded file"
  | .notLetters => "Value may only contain letters"
  | .notLettersOrDigits => "Value may only contain letters and numbers"
  | .notBoolean => "Value must be a boolean"
  | .notDate => "Value must be a date (YYYY-MM-DD)"
  | .notMoment => "Value must be a date and time (YYYY-MM-DDTHH:MM or YYYY-MM-DD HH:MM:SS)"
  | .notTime => "Value must be a time (HH:MM)"
  | .notWeek => "Value must be a week (YYYY-Www)"
  | .notMonth => "Value must be a month (YYYY-MM)"
  | .notEmail => "Value must be an email address"
  | .domainRefusesMail domain => "Domain '" ++ domain ++ "' does not accept email"
  | .domainUnverified domain => "Domain '" ++ domain ++ "' could not be verified"
  | .notListed list => "Value must be one of: " ++ Text.join ", " list
  | .listed list => "Value must not be one of: " ++ Text.join ", " list
  | .different expected => "Value must equal '" ++ expected ++ "'"
  | .forbidden text => "Value must not equal '" ++ text ++ "'"
  | .extensionNotAllowed list => "File extension must be one of: " ++ Text.join ", " list
  | .typeNotAllowed detected list =>
    "File type " ++ detected ++ " is not allowed, expected one of: " ++ Text.join ", " list
  | .unreadable name => "Cannot read '" ++ name ++ "'"
  | .notUpload => "Value is not an uploaded file"
  | .uploadFailed code => uploadMessage code
  | .notUploaded name => "'" ++ name ++ "' was not uploaded through this request"
  | .notIp => "Value must be an IP address"
  | .notAddress v6 => "Value must be an " ++ (if v6 then "IPv6" else "IPv4") ++ " address"
  | .notJsonText => "Value must be JSON text"
  | .notJson why => "Value is not valid JSON: " ++ why
  | .notCollection => "JSON value must be an array or an object"
  | .wrongLength low high =>
    let expected := if low = high then "exactly " ++ Text.showNat low
      else "between " ++ Text.showNat low ++ " and " ++ Text.showNat high
    "Value must be " ++ expected ++ " characters long"
  | .tooLong limit => "Value may be at most " ++ Text.showNat limit ++ " characters long"
  | .tooShort limit => "Value must be at least " ++ Text.showNat limit ++ " characters long"
  | .tooManyWords limit => "Value may contain at most " ++ Text.showNat limit ++ " words"
  | .tooFewWords limit => "Value must contain at least " ++ Text.showNat limit ++ " words"
  | .tooGreat threshold => "Value must not be greater than " ++ threshold
  | .tooSmall threshold => "Value must not be less than " ++ threshold
  | .notNumber => "Value must be a number"
  | .holdsNoNumber => "Value does not contain a number"
  | .notNumeral raw => "'" ++ raw ++ "' is not a number"
  | .outsideIntegers raw => "'" ++ raw ++ "' is outside the integer range"
  | .outsideFloats raw => "'" ++ raw ++ "' is outside the float range"
  | .weakPassword =>
    "Password needs at least 8 characters, an uppercase letter, a lowercase letter and a digit"
  | .noMatch => "Value does not match the required pattern"
  | .tooLarge limit => "File must not be larger than " ++ limit
  | .notPhone => "Value must be a telephone number"
  | .notUrl => "Value must be a URL"
  | .notPage url => "URL '" ++ url ++ "' does not serve a page"
  | .notReachable url => "URL '" ++ url ++ "' is not reachable"
  | .notConvertible value target => "'" ++ value ++ "' cannot be converted to " ++ target.name
  | .uploadMissing => "A file upload is required"
  | .valueMissing => "Value is required"
  | .notText => "Value must be text, not an uploaded file"
  | .unhashed why => why
  | .custom _ _ message => message

end Fault

/-- A fault at a field. -/
structure Failure where
  fault : Fault
  /-- The path of the field, its keys with points between. -/
  field : Option String := none
  /-- Is the failure told to developers, with the place that raised it? -/
  detailed : Bool := false
  deriving DecidableEq, Repr

namespace Failure

def id (f : Failure) : String := f.fault.id

def kind (f : Failure) : Kind := f.fault.kind

def code (f : Failure) : Nat := f.kind.code

def message (f : Failure) : String := f.fault.message

def isGrammar (f : Failure) : Bool := f.kind == .grammar

/-- Attaches a path, unless the failure has one. -/
def atField (f : Failure) (path : String) : Failure := { f with field := f.field.or (some path) }

/-- One line for a log. -/
def text (f : Failure) : String :=
  let place := match f.field with
    | some path => path ++ ": "
    | none => ""
  "[" ++ f.id ++ "] " ++ place ++ f.message

/-- One line for developers, with the place in the program that raised the failure. -/
def developerText (f : Failure) (place : String) : String :=
  let field := match f.field with
    | some path => " on field '" ++ path ++ "'"
    | none => ""
  "[" ++ f.id ++ "] (" ++ Text.showNat f.code ++ ") " ++ f.message ++ field ++ " at " ++ place

/-- The failure as developers are told it. -/
def detail (f : Failure) : Failure := { f with detailed := true }

end Failure

end FieldRules
