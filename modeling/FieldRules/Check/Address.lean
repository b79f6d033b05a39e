import FieldRules.Address.Email
import FieldRules.Address.Url
import FieldRules.Check.Basic
/-!
# Tests of addresses

Mail addresses, IP addresses, telephone numbers and URLs. Where the world outside is asked, no answer counts
as a refusal.
-/

namespace FieldRules

open FieldRules.Text

namespace Check

/-- The text of a subject without its outer blanks. -/
def trimmedText (fault : Fault) (s : Subject) : Except Fault String :=
  match s.text? with
  | some x => .ok (trim x)
  | none => .error fault

/-- With the modifier `domain` the domain must also name a mail exchanger. -/
def email (c : Collaborators) (t : Token) (s : Subject) : Check Outcome := do
  let address ← ofExcept (trimmedText .notEmail s)
  if !Email.isEmail address then throw .notEmail
  if !t.has .domain then return .accepted
  let domain := match cutLast '@' address with
    | some (_, domain) => domain
    | none => ""
  match ← ask (.mx domain) (c.hasMx domain) with
  | some true => return .accepted
  | some false => throw (.domainRefusesMail domain)
  | none => throw (.domainUnverified domain)

/-- Accepts an address of version 6 with the modifier for it, else of version 4. -/
def ip (t : Token) (s : Subject) : Except Fault Outcome := do
  let v6 := t.has .v6
  let address ← trimmedText .notIp s
  accept (if v6 then Ip.isV6 address else Ip.isV4 address) (.notAddress v6)

/-! ## Telephone numbers -/

/-- The settings that may list regions. -/
def regionKeys : List String := ["RULEFORM_TEL_REGIONS", "TEL_REGIONS", "DEFAULT_REGION"]

/-- The regions of a list with commas, in capitals, without blanks. -/
def regionList (list : String) : List String :=
  ((pieces ',' list).map fun r => asciiUpper (trim r)).filter (!·.isEmpty)

/-- The regions that the call prefers; only without any, those that the settings list. -/
def preferredRegions (scope : Scope) : Check (List String) :=
  if scope.telRegions.isEmpty then do
    match ← ExceptT.lift (Collaborators.firstOf scope.collaborators.config regionKeys) with
    | some list => return regionList list
    | none => return []
  else return scope.telRegions.map asciiUpper

/-- The regions in which a number is looked for, in order: those of the rule, which must all be known, else
the known ones among the preferred, else all that are known. -/
def regions (scope : Scope) (t : Token) : Check (List String) :=
  let known := scope.collaborators.phoneRegions
  if t.values.isEmpty then do
    let usable := (← preferredRegions scope).filter known.contains
    return if usable.isEmpty then known else usable
  else
    let requested := t.values.map asciiUpper
    match requested.find? fun r => !known.contains r with
    | some r => throw (.unsupportedRegion r)
    | none => return requested

/-- The first valid reading of a number among those as of the given regions. -/
def firstValid (c : Collaborators) (number : String) : List (Option String) → Traced (Option Phone)
  | [] => .silent none
  | region :: rest => do
    match ← Traced.call (.phone number region) (c.parsePhone number region) with
    | some phone => if phone.valid then return some phone else firstValid c number rest
    | none => firstValid c number rest

/-- The regions to try, where none stands for an international number. -/
def attempts (number : String) (regions : List String) : List (Option String) :=
  (if number.toList.head? == some '+' then [none] else []) ++ regions.map some

/-- Puts a telephone number into its international format. -/
def tel (scope : Scope) (t : Token) (s : Subject) : Check Outcome := do
  let regions ← regions scope t
  let number ← ofExcept (trimmedText .notPhone s)
  match ← ExceptT.lift (firstValid scope.collaborators number (attempts number regions)) with
  | some phone =>
    return if phone.international = number then .accepted else .replaced phone.international
  | none => throw .notPhone

/-! ## URLs -/

/-- With the modifier `exist` the URL must also serve a page. -/
def url (c : Collaborators) (t : Token) (s : Subject) : Check Outcome := do
  let address ← ofExcept (trimmedText .notUrl s)
  let some url := Url.parse? address | throw .notUrl
  if !t.has .exist then return .accepted
  match ← ask (.probe url.text) (c.probe url.text) with
  | some response => if response.isLivePage then return .accepted else throw (.notPage address)
  | none => throw (.notReachable address)

end Check

end FieldRules
