import FieldRules.Failure
import FieldRules.Pattern.Dialect
import FieldRules.Text.Ascii
import FieldRules.Text.Blank
import FieldRules.Text.Case
/-!
# Collaborators

What the checks ask of the world outside: functions that the caller supplies. A computation that uses
them records each use in order, so what was asked is part of its result. What is left to libraries and to
the file system is not recorded.
-/

namespace FieldRules

/-! ## What the world answers -/

/-- What a probe of a URL saw. -/
structure Response where
  status : Nat
  contentType : Option String
  bodyLength : Nat
  deriving DecidableEq, Repr

/-- A success with a body of HTML that is not empty. -/
def Response.isLivePage (r : Response) : Bool :=
  200 ≤ r.status && r.status < 300 && r.bodyLength > 0 &&
    r.contentType.any fun t => Text.occurs "text/html".toList (Text.asciiLower t).toList

/-- A telephone number that was understood. -/
structure Phone where
  valid : Bool
  /-- The number in international format. -/
  international : String
  deriving DecidableEq, Repr

/-- The world outside. An answer that is missing is an error of the one who was asked. -/
structure Collaborators where
  /-- Does the domain name a mail exchanger? -/
  hasMx : String → Option Bool
  /-- Asks for the page behind a URL. -/
  probe : String → Option Response
  /-- Understands a telephone number, as one of the region if a region is given. -/
  parsePhone : String → Option String → Option Phone
  /-- The regions whose numbers can be understood, in rising order. -/
  phoneRegions : List String
  /-- Looks up a setting. -/
  config : String → Option String
  /-- Does the path lead to a file that was uploaded? -/
  isUploadedFile : String → Bool
  /-- The bytes of the file at a path. -/
  contents : String → Option (List UInt8)
  /-- The hash of a password, or why there is none. -/
  hashPassword : String → Except String String
  /-- The regular expressions that rules may hold. -/
  dialect : Pattern.Dialect
  /-- What is said of a text that is no JSON. -/
  jsonFlaw : String → String

/-- A world that answers nothing. Of the dialects it has the one that is defined here. -/
def Collaborators.mute : Collaborators where
  hasMx _ := none
  probe _ := none
  parsePhone _ _ := none
  phoneRegions := []
  config _ := none
  isUploadedFile _ := false
  contents _ := none
  hashPassword _ := .error ""
  dialect := Pattern.Expr.dialect
  jsonFlaw _ := ""

/-! ## Recorded uses -/

/-- One use of a collaborator. -/
inductive Call where
  | mx (domain : String)
  | probe (url : String)
  | phone (value : String) (region : Option String)
  | config (key : String)
  | upload (path : String)
  | report (failure : Failure)
  deriving DecidableEq, Repr

/-- A value with the calls that were made on the way to it. -/
structure Traced (α : Type) where
  calls : List Call
  value : α

namespace Traced

/-- A value that took no call. -/
def silent {α : Type} (a : α) : Traced α := ⟨[], a⟩

/-- The answer of one call. -/
def call {α : Type} (c : Call) (answer : α) : Traced α := ⟨[c], answer⟩

instance : Monad Traced where
  pure := silent
  bind t f := let u := f t.value; ⟨t.calls ++ u.calls, u.value⟩

variable {α β : Type}

@[simp] theorem calls_pure (a : α) : (pure a : Traced α).calls = [] := rfl

@[simp] theorem value_pure (a : α) : (pure a : Traced α).value = a := rfl

@[simp] theorem calls_bind (t : Traced α) (f : α → Traced β) :
    (t >>= f).calls = t.calls ++ (f t.value).calls := rfl

@[simp] theorem value_bind (t : Traced α) (f : α → Traced β) : (t >>= f).value = (f t.value).value := rfl

end Traced

/-! ## Settings by name -/

namespace Collaborators

/-- The first value among the keys that is not blank; later keys are not asked. -/
def firstOf (config : String → Option String) : List String → Traced (Option String)
  | [] => .silent none
  | key :: keys => do
    match ← Traced.call (.config key) (config key) with
    | some value => if (Text.trim value).isEmpty then firstOf config keys else return some value
    | none => firstOf config keys

/-- Settings from variables whose names are the capital form of the key after a common beginning. -/
def environment (start : String) (value : String → Option String) : String → Option String :=
  fun key => value (start ++ Text.upper key)

end Collaborators

/-- The regions that are offered to a telephone library. -/
def regionCodes : List String := Text.words
  "AC AD AE AF AG AI AL AM AO AR AS AT AU AW AX AZ BA BB BD BE BF BG BH BI BJ BL BM BN BO BQ BR BS
   BT BW BY BZ CA CC CD CF CG CH CI CK CL CM CN CO CR CU CV CW CX CY CZ DE DJ DK DM DO DZ EC EE EG
   EH ER ES ET FI FJ FK FM FO FR GA GB GD GE GF GG GH GI GL GM GN GP GQ GR GT GU GW GY HK HN HR HT
   HU ID IE IL IM IN IO IQ IR IS IT JE JM JO JP KE KG KH KI KM KN KP KR KW KY KZ LA LB LC LI LK LR
   LS LT LU LV LY MA MC MD ME MF MG MH MK ML MM MN MO MP MQ MR MS MT MU MV MW MX MY MZ NA NC NE NF
   NG NI NL NO NP NR NU NZ OM PA PE PF PG PH PK PL PM PR PS PT PW PY QA RE RO RS RU RW SA SB SC SD
   SE SG SH SI SJ SK SL SM SN SO SR SS ST SV SX SY SZ TA TC TD TG TH TJ TK TL TM TN TO TR TT TV TW
   TZ UA UG US UY UZ VA VC VE VG VI VN VU WF WS XK YE YT ZA ZM ZW"

/-- What a telephone library says of a region that it does not know. -/
def unknownRegionMessage (region : String) : String :=
  "Phone number could not be parsed: unknown region " ++ region

end FieldRules
