import CommandLink.Net.Host

/-!
# Addresses of web servers

The address of a server as a client takes it: a scheme, perhaps a user, a host, perhaps a port, a
path, and perhaps a query and a fragment. Reading is lenient (white space around the address, line
breaks within it, backslashes for slashes, dots in the path), and an address is written in one form
only: lower case in the scheme and the host, no port where it is the scheme's own, no dots in the
path, and percent signs for what may not stand as it is.
-/

namespace CommandLink.Net

/-- An address with the scheme `http` or `https`. -/
structure Url where
  /-- The link is encrypted. -/
  secure : Bool
  /-- The user and the password, as they stand before the host. -/
  user : String
  host : Host
  /-- The port, if it is not the scheme's own. -/
  port : Option Nat
  /-- The names of the path, of which there is at least one. -/
  path : List String
  query : Option String
  fragment : Option String
  deriving DecidableEq, Repr

namespace Url

/-- The scheme of an address. -/
def scheme (u : Url) : String := if u.secure then "https" else "http"

/-- The text of an address. -/
def text (u : Url) : String :=
  let user := if u.user = "" then "" else u.user ++ "@"
  let port := match u.port with
    | some p => ":" ++ Text.decimal p
    | none => ""
  let query := match u.query with
    | some q => "?" ++ q
    | none => ""
  let fragment := match u.fragment with
    | some f => "#" ++ f
    | none => ""
  u.scheme ++ "://" ++ user ++ u.host.text ++ port ++
    String.join (u.path.map fun name => "/" ++ name) ++ query ++ fragment

/-- An address without its user. -/
def withoutUser (u : Url) : Url := { u with user := "" }

/-! ## Percent signs -/

/-- A byte as a percent sign and two digits. -/
def percentEncodeByte (b : UInt8) : List Char :=
  ['%', (Bytes.hexDigit (b.toNat / 16)).toUpper, (Bytes.hexDigit (b.toNat % 16)).toUpper]

/-- Characters with percent signs for those that are not ASCII, for control characters and for the
given ones. -/
def percentEncode (marked : String) (cs : List Char) : List Char :=
  cs.flatMap fun c =>
    if c.toNat < 32 || 126 < c.toNat || marked.toList.contains c then
      (String.utf8EncodeChar c).flatMap percentEncodeByte
    else [c]

/-- The characters that are marked in a fragment. -/
def markedInFragment : String := " \"<>\x60"

/-- The characters that are marked in a path. -/
def markedInPath : String := markedInFragment ++ "#?\x7b\x7d"

/-- The characters that are marked in a user. -/
def markedInUser : String := markedInPath ++ "/:;=@[\\]^|"

/-- The characters that are marked in a query. -/
def markedInQuery : String := " \"#<>'"

/-! ## Reading -/

/-- Whether a character ends the part of an address that names the server. -/
def endsAuthority (special : Bool) (c : Char) : Bool :=
  c = '/' || c = '?' || c = '#' || (special && c = '\\')

/-- The scheme at the front of a text, in lower case, and what is behind its colon. -/
def takeScheme (cs : List Char) : Option (String × List Char) :=
  match cs, Text.splitOnce ':' cs with
  | c :: _, some (scheme, rest) =>
    if c.isAlpha && scheme.all fun c => c.isAlphanum || c = '+' || c = '-' || c = '.' then
      some (String.ofList (scheme.map Char.toLower), rest)
    else none
  | _, _ => none

/-- The user as it stands before the host: a name, and a password behind the first colon. -/
def encodeUser (cs : List Char) : String :=
  match Text.splitOnce ':' cs with
  | none => String.ofList (percentEncode markedInUser cs)
  | some (name, password) =>
    let name := percentEncode markedInUser name
    let password := percentEncode markedInUser password
    String.ofList (if password = [] then name else name ++ ':' :: password)

/-- Splits off a user. A user may be empty, but not in front of an empty host. -/
def takeUser (special : Bool) (cs : List Char) : Except UrlError (List Char × List Char) :=
  let front := cs.takeWhile fun c => !endsAuthority special c
  let rest := cs.dropWhile fun c => !endsAuthority special c
  match Text.splitLast '@' front with
  | none => .ok ([], cs)
  | some (user, host) =>
    if user = [] && host = [] && rest ≠ [] then .error .emptyHost else .ok (user, host ++ rest)

/-- The characters of a host at the front of a text. A colon within brackets is one of them. -/
def takeHost (special : Bool) : (inBrackets : Bool) → List Char → List Char × List Char
  | _, [] => ([], [])
  | inBrackets, c :: cs =>
    if endsAuthority special c || (c = ':' && !inBrackets) then ([], c :: cs)
    else
      let inBrackets := if c = '[' then true else if c = ']' then false else inBrackets
      let (host, rest) := takeHost special inBrackets cs
      (c :: host, rest)

/-- The port at the front of a text, behind a colon, if any digits stand there. -/
def takePort (cs : List Char) : Except UrlError (Option Nat × List Char) :=
  match cs with
  | ':' :: cs =>
    let digits := cs.takeWhile Text.isDigit
    let rest := cs.dropWhile Text.isDigit
    let stops := match rest with
      | [] => true
      | c :: _ => endsAuthority true c
    if 65535 < Text.digitsValue digits || !stops then .error .invalidPort
    else .ok (Text.digits? digits, rest)
  | cs => .ok (none, cs)

/-- Whether a name of a path stands for the directory itself. -/
def isDot (name : List Char) : Bool :=
  let name := name.map Char.toLower
  name = ['.'] || name = "%2e".toList

/-- Whether a name of a path stands for the directory above. -/
def isDoubleDot (name : List Char) : Bool :=
  let name := name.map Char.toLower
  name = "..".toList || name = ".%2e".toList || name = "%2e.".toList || name = "%2e%2e".toList

/-- Whether a text is the name of a drive. It stands for no host, and in a path it has nothing above
it. -/
def isDrive (cs : List Char) : Bool :=
  match cs with
  | [c, d] => c.isAlpha && (d = ':' || d = '|')
  | _ => false

/-- The names of a path, last first, of the directory above. -/
def above (read : List (List Char)) : List (List Char) :=
  match read with
  | [] => []
  | name :: names => if isDrive name then name :: names else names

/-- The names of a path after some names, last first, have been read: dots are followed, and one
that ends the path leaves an empty name. -/
def follow (read : List (List Char)) : List (List Char) → List (List Char)
  | [] => read.reverse
  | name :: names =>
    let read :=
      if isDoubleDot name then above read
      else if isDot name then read
      else name :: read
    let ends := names = [] && (isDoubleDot name || isDot name)
    follow (if ends then [] :: read else read) names

/-- The names of a path; a slash may stand before them. -/
def pathNames (cs : List Char) : List String :=
  let cs := cs.map fun c => if c = '\\' then '/' else c
  let cs := match cs with
    | '/' :: cs => cs
    | cs => cs
  let names := (Text.splitOn '/' cs).map (percentEncode markedInPath)
  (follow [] names).map String.ofList

/-- A text up to a character, and what is behind that character. -/
def cut (c : Char) (cs : List Char) : List Char × Option (List Char) :=
  match Text.splitOnce c cs with
  | none => (cs, none)
  | some (first, rest) => (first, some rest)

/-- The address of a web server, behind its scheme and colon. -/
def parseRest (secure : Bool) (cs : List Char) : Except UrlError Url := do
  let cs := cs.dropWhile fun c => c = '/' || c = '\\'
  let (user, cs) ← takeUser true cs
  let (host, cs) := takeHost true false cs
  if host = [] then throw .emptyHost
  let host ← Host.parse host
  let (port, cs) ← takePort cs
  let (cs, fragment) := cut '#' cs
  let (path, query) := cut '?' cs
  return {
    secure := secure
    user := encodeUser user
    host := host
    port := port.filter (· ≠ if secure then 443 else 80)
    path := pathNames path
    query := query.map fun q => String.ofList (percentEncode markedInQuery q)
    fragment := fragment.map fun f => String.ofList (percentEncode markedInFragment f) }

/-- Looks for faults in the server that an address with another scheme names. -/
def checkOther (scheme : String) (cs : List Char) : Except UrlError Unit := do
  if scheme = "file" then
    match cs with
    | c :: d :: cs =>
      let host := cs.takeWhile fun c => !endsAuthority true c
      if endsAuthority true c && c ≠ '?' && c ≠ '#' && (d = '/' || d = '\\') &&
          host ≠ [] && !isDrive host then
        let _ ← Host.parse host
    | _ => return ()
  else
    let special := ["ftp", "ws", "wss"].contains scheme
    match special, cs with
    | false, '/' :: '/' :: cs => checkServer special cs
    | false, _ => return ()
    | true, cs => checkServer special (cs.dropWhile fun c => c = '/' || c = '\\')
where
  checkServer (special : Bool) (cs : List Char) : Except UrlError Unit := do
    let (user, cs) ← takeUser special cs
    let (host, cs) := takeHost special false cs
    if host = [] && (special || cs.head? = some ':' || encodeUser user ≠ "") then throw .emptyHost
    if special then
      let _ ← Host.parse host
    else Host.parseOpaque host
    let _ ← takePort cs

/-- The address that a text writes. Only web servers have addresses here. -/
def parse (s : String) : Except UrlError Url :=
  let isEdge (c : Char) : Bool := c.toNat ≤ 32
  let cs := ((s.toList.dropWhile isEdge).reverse.dropWhile isEdge).reverse
  let cs := cs.filter fun c => c ≠ '\t' && c ≠ '\n' && c ≠ '\r'
  match takeScheme cs with
  | none => .error .noScheme
  | some ("http", rest) => parseRest false rest
  | some ("https", rest) => parseRest true rest
  | some (scheme, rest) =>
    match checkOther scheme rest with
    | .error e => .error e
    | .ok () => .error (.unsupportedScheme scheme)

end Url

end CommandLink.Net
