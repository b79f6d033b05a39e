import FieldRules.Address.Host
/-!
# URLs

Reading absolute URLs by the rules of the web, and writing them back in their normal form. A URL of a
well-known scheme has a host; others may have a host, a path from the root, or any path.
-/

namespace FieldRules

open FieldRules.Text

/-- What follows the authority of a URL. -/
inductive UrlPath where
  /-- A path without structure. -/
  | bare (s : String)
  /-- The segments of a path from the root. -/
  | segments (list : List String)
  deriving DecidableEq, Repr

/-- An absolute URL in its parts, each in its written form. -/
structure Url where
  scheme : String
  username : String := ""
  password : String := ""
  host : Option Host := none
  port : Option Nat := none
  path : UrlPath
  query : Option String := none
  fragment : Option String := none
  deriving DecidableEq, Repr

namespace Url

/-- The well-known schemes with the ports that they imply. -/
def schemes : List (String × Option Nat) :=
  [("http", some 80), ("https", some 443), ("ws", some 80), ("wss", some 443), ("ftp", some 21),
    ("file", none)]

def isSpecial (scheme : String) : Bool := schemes.any (·.1 == scheme)

/-- The port that a scheme implies. -/
def impliedPort (scheme : String) : Option Nat := (schemes.find? (·.1 == scheme)).bind Prod.snd

/-! ## Escapes -/

def fragmentSet : List Char := [' ', '\x22', '<', '>', '\x60']

/-- The characters that are escaped in the query of a URL. -/
def querySet (special : Bool) : List Char :=
  [' ', '\x22', '#', '<', '>'] ++ if special then ['\x27'] else []

def pathSet : List Char := fragmentSet ++ ['#', '?', '\x7b', '\x7d']

def userSet : List Char := pathSet ++ ['/', ':', ';', '=', '@', '[', '\\', ']', '^', '|']

def escaped (set cs : List Char) : String := String.ofList (Percent.encode set cs)

/-! ## Paths -/

def isSlash (special : Bool) (c : Char) : Bool := c == '/' || (special && c == '\\')

/-- The text with each `%2e` resolved, in small letters. -/
def plainDots : List Char → List Char
  | '%' :: '2' :: c :: cs => if c == 'e' || c == 'E' then '.' :: plainDots cs else '%' :: '2' :: c :: plainDots cs
  | c :: cs => c :: plainDots cs
  | [] => []

def isHere (cs : List Char) : Bool := plainDots cs == ['.']

def isUp (cs : List Char) : Bool := plainDots cs == ['.', '.']

/-- A letter and a colon or a bar. -/
def isDrive : List Char → Bool
  | [a, b] => isAsciiLetter a && (b == ':' || b == '|')
  | _ => false

/-- Leaves the last segment, but not a drive of a file. -/
def goUp (scheme : String) (path : List String) : List String :=
  match path with
  | [only] => if scheme == "file" && isDrive only.toList then path else []
  | _ => path.dropLast

/-- Adds a segment; a drive at the start of the path of a file gets a colon. -/
def addSegment (scheme : String) (path : List String) (cs : List Char) : List String :=
  match cs with
  | [a, _] =>
    if scheme == "file" && path.isEmpty && isDrive cs then path ++ [String.ofList [a, ':']]
    else path ++ [escaped pathSet cs]
  | _ => path ++ [escaped pathSet cs]

/-- The path after the segments: `.` stays in place and `..` goes up, and both leave an empty segment when
they come last. -/
def walkPath (scheme : String) (path : List String) : List (List Char) → List String
  | [] => path
  | [last] =>
    if isUp last then goUp scheme path ++ [""]
    else if isHere last then path ++ [""]
    else addSegment scheme path last
  | cs :: rest =>
    if isUp cs then walkPath scheme (goUp scheme path) rest
    else if isHere cs then walkPath scheme path rest
    else walkPath scheme (addSegment scheme path cs) rest

/-- The path after a host, or from the root. -/
def rootPath (scheme : String) (cs : List Char) : List String :=
  let special := isSpecial scheme
  match cs with
  | [] => if special then [""] else []
  | c :: rest => walkPath scheme [] (piecesBy (isSlash special) (if isSlash special c then rest else cs))

/-! ## Reading -/

/-- The characters before a mark, and those behind it if it stands there. -/
def cutMark (mark : Char) (cs : List Char) : List Char × Option (List Char) :=
  match cutAt (· == mark) cs with
  | some (a, b) => (a, some b)
  | none => (cs, none)

/-- The scheme in small letters, and what follows its colon. -/
def scheme? (cs : List Char) : Option (String × List Char) := do
  let (name, rest) ← cutAt (· == ':') cs
  let fits c := isAsciiLetter c || isAsciiDigit c || c == '+' || c == '-' || c == '.'
  if name.head?.any isAsciiLetter && name.all fits then
    some (String.ofList (name.map Char.toLower), rest)
  else none

/-- The user name and the password before the last `@` of an authority. -/
def credentials (authority : List Char) : Option (List Char) × List Char :=
  match cutAt (· == '@') authority.reverse with
  | some (host, user) => (some user.reverse, host.reverse)
  | none => (none, authority)

/-- The host of an authority and the text of its port; colons between brackets belong to the host. -/
def cutPort (inside : Bool) : List Char → List Char × Option (List Char)
  | [] => ([], none)
  | c :: cs =>
    if c == ':' && !inside then ([], some cs)
    else
      let (host, port) := cutPort (if c == '[' then true else if c == ']' then false else inside) cs
      (c :: host, port)

/-- The port of an authority: none if it is left out or implied. -/
def port? (scheme : String) : Option (List Char) → Option (Option Nat)
  | none => some none
  | some [] => some none
  | some cs => (digits? cs).bind fun n =>
      if n < 65536 then some (if impliedPort scheme == some n then none else some n) else none

/-- The host and the port after the credentials. -/
def hostAndPort? (scheme : String) (cs : List Char) : Option (Host × Option Nat) := do
  let (name, port) := cutPort false cs
  let host ← if isSpecial scheme then Host.special? name else Host.plain? name
  if name.isEmpty && port.isSome then none
  return (host, ← port? scheme port)

/-- A URL whose authority begins here. -/
def withAuthority? (scheme : String) (cs : List Char) : Option Url := do
  let stop := cs.takeWhile fun c => !isSlash (isSpecial scheme) c
  let (user, rest) := credentials stop
  let (host, port) ← hostAndPort? scheme rest
  if user.isSome && rest.isEmpty then none
  let (username, password) := cutMark ':' (user.getD [])
  return { scheme, host := some host, port,
           username := escaped userSet username, password := escaped userSet (password.getD []),
           path := .segments (rootPath scheme (cs.drop stop.length)) }

/-- The URL of a file. A drive in the place of the host is part of the path, and `localhost` is no host. -/
def file? (cs : List Char) : Option Url :=
  let slash := isSlash true
  match cs with
  | a :: b :: rest =>
    if slash a && slash b then
      let name := rest.takeWhile fun c => !slash c
      if isDrive name then some { scheme := "file", path := .segments (rootPath "file" rest) }
      else if name.isEmpty then
        some { scheme := "file", path := .segments (rootPath "file" rest) }
      else (Host.special? name).map fun host =>
        { scheme := "file", host := if host == .name "localhost" then none else some host,
          path := .segments (rootPath "file" (rest.drop name.length)) }
    else some { scheme := "file", path := .segments (rootPath "file" cs) }
  | _ => some { scheme := "file", path := .segments (rootPath "file" cs) }

/-- The parts of a URL before its query. -/
def hierarchy? (scheme : String) (cs : List Char) : Option Url :=
  if scheme == "file" then file? cs
  else if isSpecial scheme then withAuthority? scheme (cs.dropWhile (isSlash true))
  else
    match cs with
    | '/' :: '/' :: rest => withAuthority? scheme rest
    | '/' :: _ => some { scheme, path := .segments (rootPath scheme cs) }
    | _ => some { scheme, path := .bare (escaped [] cs) }

/-- The URL that a text is. Controls at its ends are passed over. -/
def read? (s : String) : Option Url := do
  let isEdge (c : Char) := c.toNat ≤ 0x20
  let cs := ((s.toList.dropWhile isEdge).reverse.dropWhile isEdge).reverse
  let (scheme, rest) ← scheme? cs
  let (rest, fragment) := cutMark '#' rest
  let (rest, query) := cutMark '?' rest
  let url ← hierarchy? scheme rest
  return { url with
    query := query.map (escaped (querySet (isSpecial scheme))),
    fragment := fragment.map (escaped fragmentSet) }

/-! ## Writing -/

def pathText : UrlPath → String
  | .bare s => s
  | .segments list => String.join (list.map fun s => "/" ++ s)

/-- The user name and the password before the host. -/
def credentialsText (url : Url) : String :=
  if url.username.isEmpty && url.password.isEmpty then ""
  else url.username ++ (if url.password.isEmpty then "" else ":" ++ url.password) ++ "@"

/-- The authority after the scheme. Without one, a path that begins with two slashes is set off. -/
def authorityText (url : Url) : String :=
  match url.host with
  | some host =>
    "//" ++ credentialsText url ++ host.text ++
      (match url.port with
        | some n => ":" ++ showNat n
        | none => "")
  | none =>
    if url.scheme == "file" then "//"
    else match url.path with
      | .segments ("" :: _ :: _) => "/."
      | _ => ""

/-- The normal form of a URL. -/
def text (url : Url) : String :=
  let query := match url.query with
    | some q => "?" ++ q
    | none => ""
  let fragment := match url.fragment with
    | some f => "#" ++ f
    | none => ""
  url.scheme ++ ":" ++ authorityText url ++ pathText url.path ++ query ++ fragment

/-! ## Use -/

/-- Does the URL name a place: a file, a host, or something without structure? -/
def namesPlace (url : Url) : Bool :=
  match url.path, url.host with
  | .bare _, _ => true
  | _, some host => !host.text.isEmpty
  | _, none => url.scheme == "file"

/-- The URL that a text is, if it has no blanks and names a place. -/
def parse? (s : String) : Option Url :=
  if s.toList.any isBlank then none else (read? s).filter namesPlace

end Url

end FieldRules
