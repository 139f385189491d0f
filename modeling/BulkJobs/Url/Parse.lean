import BulkJobs.Text.Blank
import BulkJobs.Url.Domain
import BulkJobs.Url.Ipv4
import BulkJobs.Url.Ipv6
import BulkJobs.Url.Path

/-!
# Reading URLs

A text is cleaned of blanks around it and of tabs and line breaks inside it, and then cut from left
to right into scheme, authority, path, query and fragment. Each part is brought to the form it has
in a URL.
-/

set_option autoImplicit false
set_option relaxedAutoImplicit false

namespace BulkJobs.Url

/-- Remove controls and blanks at both ends, and tabs and line breaks everywhere. -/
def clean (text : List Char) : List Char :=
  (Text.stripWhile (·.toNat ≤ 0x20) text).filter fun c ↦ c != '\t' && c != '\n' && c != '\r'

/-- The scheme at the start of a text, in lower case, and what follows its colon. -/
def scheme? (text : List Char) : Option (String × List Char) :=
  let isPart := fun (c : Char) ↦ Text.isAsciiAlphanumeric c || c == '+' || c == '-' || c == '.'
  match text.head?, text.dropWhile isPart with
  | some first, ':' :: rest =>
    if Text.isAsciiLetter first then
      some (.ofList ((text.takeWhile isPart).map Text.lowerAscii), rest)
    else none
  | _, _ => none

/-- Whether a reader of URLs of the web takes the character for a slash. -/
def isSlash (c : Char) : Bool :=
  c == '/' || c == '\\'

/-- Whether the character ends an authority. -/
def endsAuthority (special : Bool) (c : Char) : Bool :=
  c == '/' || c == '?' || c == '#' || (special && c == '\\')

/-- The text before the last at sign, if there is one, and the text after it. -/
def splitLastAt (text : List Char) : Option (List Char) × List Char :=
  if text.contains '@' then
    let after := (text.reverse.takeWhile (· != '@')).reverse
    (some (text.take (text.length - after.length - 1)), after)
  else (none, text)

/-- User name and password in the text before an at sign. An empty password is no password. -/
def userInfo (text : List Char) : String × Option String :=
  let name := escape keptInUserInfo (text.takeWhile (· != ':'))
  match text.dropWhile (· != ':') with
  | _ :: c :: password => (name, some (escape keptInUserInfo (c :: password)))
  | _ => (name, none)

/-- The host at the start of a text and the rest. A colon ends a host unless it stands in brackets.
-/
def splitHost (special inBrackets : Bool) : List Char → List Char × List Char
  | [] => ([], [])
  | c :: rest =>
    if endsAuthority special c || (c == ':' && !inBrackets) then ([], c :: rest)
    else
      let inside := if c == '[' then true else if c == ']' then false else inBrackets
      let (host, rest) := splitHost special inside rest
      (c :: host, rest)

def bracketed (text : List Char) : Except UrlProblem Host :=
  if text.getLast? == some ']' then .ipv6 <$> Ipv6.parse (text.drop 1).dropLast
  else .error .invalidIpv6

/-- The host of a URL with a special scheme: an address in brackets, an IPv4 address or a domain
name. -/
def specialHost (text : List Char) : Except UrlProblem Host :=
  if text.head? == some '[' then bracketed text
  else do
    let name ← Domain.parse text
    if Ipv4.endsInNumber name then return .ipv4 (← Ipv4.parse name)
    else return .domain (.ofList name)

/-- Whether the character may not stand in the host of a URL with a scheme of its own. -/
def isForbiddenInOpaqueHost (c : Char) : Bool :=
  c.toNat == 0 ||
    [' ', '#', '/', ':', '<', '>', '?', '@', '[', '\\', ']', '^', '|'].contains c

/-- The host of a URL with a scheme of its own. -/
def opaqueHost (text : List Char) : Except UrlProblem Host :=
  if text.head? == some '[' then bracketed text
  else if text.any isForbiddenInOpaqueHost then .error .invalidDomainCharacter
  else return .domain (escape isPrintable text)

/-- The port after a colon, unless it is the default one, and the rest. -/
def readPort (scheme : String) (text : List Char) : Except UrlProblem (Option Nat × List Char) :=
  let digits := text.takeWhile Text.isAsciiDigit
  let rest := text.drop digits.length
  match Text.decimal? digits with
  | some n =>
    if n > 65535 || !endsPort rest then .error .invalidPort
    else .ok (if defaultPort? scheme == some n then none else some n, rest)
  | none => if endsPort rest then .ok (none, rest) else .error .invalidPort
where
  endsPort (rest : List Char) : Bool :=
    match rest with
    | [] => true
    | c :: _ => endsAuthority true c

/-- The host of a URL. Where the host may be empty, nobody may ask there. -/
def readHost (special asked : Bool) (text : List Char) : Except UrlProblem Host := do
  if special && text.isEmpty then throw .emptyHost
  let host ← if special then specialHost text else opaqueHost text
  if host.isEmpty && asked then throw .emptyHost
  return host

/-- The port behind a host, if there is a colon, and the rest. -/
def readPortBehind (scheme : String) (host : Host) :
    List Char → Except UrlProblem (Option Nat × List Char)
  | ':' :: rest => if host.isEmpty then .error .emptyHost else readPort scheme rest
  | rest => .ok (none, rest)

/-- The authority at the start of a text and the rest. -/
def readAuthority (scheme : String) (text : List Char) :
    Except UrlProblem (Authority × List Char) := do
  let special := isSpecialScheme scheme
  let written := text.takeWhile (!endsAuthority special ·)
  let rest := text.drop written.length
  let (info, located) := splitLastAt written
  if info == some [] && located.isEmpty && !rest.isEmpty then throw .emptyHost
  let (username, password) := userInfo (info.getD [])
  let (hostText, rest) := splitHost special false (located ++ rest)
  let host ← readHost special (!username.isEmpty || password.isSome) hostText
  let (port, rest) ← readPortBehind scheme host rest
  return ({ username, password, host, port }, rest)

/-- Whether the first segment of a file path is a drive. -/
def startsWithDrive (path : List Char) : Bool :=
  match cutPath true (dropSlash true path) with
  | [letter, mark] :: _ => isDrive (.ofList [letter, mark])
  | (letter :: ':' :: _) :: _ => isDrive (.ofList [letter, ':'])
  | _ => false

/-- The authority of a file URL and the rest. This machine is no host, and a drive goes without. -/
def readFileAuthority (text : List Char) : Except UrlProblem (Authority × List Char) := do
  let slashes := text.take 2
  let nowhere : Authority := { username := "", password := none, host := .domain "", port := none }
  if slashes.length == 2 && slashes.all isSlash then
    let located := text.drop 2
    let hostText := located.takeWhile (!endsAuthority true ·)
    if hostText.isEmpty || isDrive (.ofList hostText) then return (nowhere, located)
    else
      let host ← specialHost hostText
      let path := located.drop hostText.length
      if host == .domain "localhost" || startsWithDrive path then return (nowhere, path)
      else return ({ nowhere with host }, path)
  else return (nowhere, text)

/-- The authority of a URL, if it has one, and the rest. Before the authority of a URL with a
special scheme any number of slashes may stand. -/
def readLocation (scheme : String) (text : List Char) :
    Except UrlProblem (Option Authority × List Char) := do
  if scheme == "file" then
    let (authority, rest) ← readFileAuthority text
    return (some authority, rest)
  else if isSpecialScheme scheme then
    let (authority, rest) ← readAuthority scheme (text.dropWhile isSlash)
    return (some authority, rest)
  else
    match text with
    | '/' :: '/' :: text => do
      let (authority, rest) ← readAuthority scheme text
      return (some authority, rest)
    | text => return (none, text)

/-- Cut a text into what comes before the query, the query, and the fragment. -/
def splitQuery (text : List Char) : List Char × Option (List Char) × Option (List Char) :=
  let afterMark := fun (part : List Char) ↦ match part with
    | [] => none
    | _ :: rest => some rest
  let beforeFragment := text.takeWhile (· != '#')
  (beforeFragment.takeWhile (· != '?'), afterMark (beforeFragment.dropWhile (· != '?')),
    afterMark (text.dropWhile (· != '#')))

/-- The path of a URL, whose dot segments are carried out if it has segments. -/
def readPath (scheme : String) (located : Bool) (text : List Char) : UrlPath :=
  if scheme == "file" then .segments (fileSegments text)
  else if isSpecialScheme scheme then .segments (pathSegments true text)
  else if text.isEmpty && located then .segments []
  else if located || text.head? == some '/' then .segments (pathSegments false text)
  else .opaqueText (escape isPrintable text)

/-- Read a URL: blanks around it are taken away, and then it is read part by part, scheme and
authority first. -/
def parse (text : String) : Except UrlProblem Url := do
  let some (scheme, rest) := scheme? (clean text.toList) | throw .relativeWithoutBase
  let (authority, rest) ← readLocation scheme rest
  let (path, query, fragment) := splitQuery rest
  return {
    scheme, authority,
    path := readPath scheme authority.isSome path,
    query := query.map (escape (keptInQuery (isSpecialScheme scheme))),
    fragment := fragment.map (escape keptInFragment) }

end BulkJobs.Url
