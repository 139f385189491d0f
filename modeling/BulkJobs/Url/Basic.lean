import BulkJobs.Text.Ascii

/-!
# URLs

A URL is a scheme, perhaps an authority, a path, and perhaps a query and a fragment. Its parts are
kept as they are written in the URL, percent encoding included. Two URLs have the same origin when
scheme, host and port agree, a missing port being the default one of the scheme.
-/

set_option autoImplicit false
set_option relaxedAutoImplicit false

namespace BulkJobs

/-- A host: a name, or an address in one of two forms. -/
inductive Host where
  /-- A domain name, or the opaque host of a URL with a scheme of its own; it may be empty there. -/
  | domain (name : String)
  /-- The four bytes of an IPv4 address as one number. -/
  | ipv4 (address : Nat)
  | ipv6 (pieces : List Nat)
deriving DecidableEq, Repr

/-- The part of a URL that names a host, and who asks. -/
structure Authority where
  username : String
  password : Option String
  host : Host
  /-- The port, unless it is the default one of the scheme. -/
  port : Option Nat
deriving DecidableEq, Repr

/-- The path of a URL: segments, each with a slash before it, or a text without structure. -/
inductive UrlPath where
  | segments (parts : List String)
  | opaqueText (text : String)
deriving DecidableEq, Repr

/-- A URL, with its parts as they are written: percent encoded where they have to be. -/
structure Url where
  scheme : String
  authority : Option Authority
  path : UrlPath
  query : Option String
  fragment : Option String
deriving DecidableEq, Repr

/-- Scheme, host and port of a URL, which say whether two URLs are of one site. -/
structure Origin where
  scheme : String
  host : Host
  port : Nat
deriving DecidableEq, Repr

/-- Why a text is not a URL: it has no scheme, or a part of it does not read. -/
inductive UrlProblem where
  | relativeWithoutBase
  | emptyHost
  | invalidPort
  | invalidIpv4
  | invalidIpv6
  | invalidInternationalName
  | invalidDomainCharacter
deriving DecidableEq, Repr

def UrlProblem.message : UrlProblem → String
  | .relativeWithoutBase => "relative URL without a base"
  | .emptyHost => "empty host"
  | .invalidPort => "invalid port number"
  | .invalidIpv4 => "invalid IPv4 address"
  | .invalidIpv6 => "invalid IPv6 address"
  | .invalidInternationalName => "invalid international domain name"
  | .invalidDomainCharacter => "invalid domain character"

namespace Host

/-- The four bytes of an IPv4 address with dots between them. -/
def writeIpv4 (address : Nat) : List Char :=
  let byte := fun (shift : Nat) ↦ Nat.toDigits 10 (address / Nat.pow 2 shift % 256)
  byte 24 ++ '.' :: byte 16 ++ '.' :: byte 8 ++ '.' :: byte 0

/-- The number of zeros at the start of a list. -/
def leadingZeros (pieces : List Nat) : Nat :=
  (pieces.takeWhile (· == 0)).length

/-- Start and length of the first longest run of zeros. -/
def longestZeros : Nat → List Nat → Nat × Nat
  | _, [] => (0, 0)
  | start, piece :: pieces =>
    let here := leadingZeros (piece :: pieces)
    let later := longestZeros (start + 1) pieces
    if later.2 > here then later else (start, here)

/-- Numbers in hexadecimal with colons between them. -/
def joinHex (pieces : List Nat) : List Char :=
  [':'].intercalate (pieces.map Text.lowerHex)

/-- An IPv6 address with its longest run of at least two zero pieces left out. -/
def writeIpv6 (pieces : List Nat) : List Char :=
  let (start, length) := longestZeros 0 pieces
  if length < 2 then joinHex pieces
  else joinHex (pieces.take start) ++ [':', ':'] ++ joinHex (pieces.drop (start + length))

/-- The text of a host in a URL. -/
def write : Host → List Char
  | .domain name => name.toList
  | .ipv4 address => writeIpv4 address
  | .ipv6 pieces => '[' :: writeIpv6 pieces ++ [']']

def isEmpty (host : Host) : Bool :=
  host == .domain ""

end Host

namespace Authority

/-- The port of an authority with the colon before it. -/
def writePort (authority : Authority) : List Char :=
  match authority.port with
  | some port => ':' :: Nat.toDigits 10 port
  | none => []

def hasUserInfo (authority : Authority) : Bool :=
  authority.username != "" || authority.password.isSome

/-- Who asks, with the sign that separates it from the host. -/
def writeUserInfo (authority : Authority) : List Char :=
  if authority.hasUserInfo then
    authority.username.toList ++
      (match authority.password with
        | some password => ':' :: password.toList
        | none => []) ++ ['@']
  else []

def write (authority : Authority) : List Char :=
  authority.writeUserInfo ++ authority.host.write ++ authority.writePort

end Authority

def UrlPath.write : UrlPath → List Char
  | .segments parts => parts.flatMap fun part ↦ '/' :: part.toList
  | .opaqueText text => text.toList

namespace Url

/-- The default port of a scheme. -/
def defaultPort? (scheme : String) : Option Nat :=
  if scheme == "http" || scheme == "ws" then some 80
  else if scheme == "https" || scheme == "wss" then some 443
  else if scheme == "ftp" then some 21
  else none

/-- Whether the scheme is one of those whose URLs always have a hierarchical path. -/
def isSpecialScheme (scheme : String) : Bool :=
  scheme == "file" || (defaultPort? scheme).isSome

/-- The query of a URL with the question mark before it. -/
def writeQuery (url : Url) : List Char :=
  match url.query with
  | some query => '?' :: query.toList
  | none => []

/-- The fragment of a URL with the number sign before it. -/
def writeFragment (url : Url) : List Char :=
  match url.fragment with
  | some fragment => '#' :: fragment.toList
  | none => []

/-- Scheme, authority and path of a URL. A path that starts with two slashes is kept apart from an
authority by a dot segment. -/
def writeHierarchy (url : Url) : List Char :=
  url.scheme.toList ++ ':' ::
    match url.authority with
    | some authority => '/' :: '/' :: authority.write ++ url.path.write
    | none =>
      match url.path with
      | .segments ("" :: second :: rest) =>
        ['/', '.'] ++ (UrlPath.segments ("" :: second :: rest)).write
      | path => path.write

/-- The text of a URL, from its scheme to its fragment. -/
def write (url : Url) : String :=
  .ofList (url.writeHierarchy ++ url.writeQuery ++ url.writeFragment)

def pathText (url : Url) : String :=
  .ofList url.path.write

def host? (url : Url) : Option Host :=
  match url.authority with
  | some authority => if authority.host.isEmpty then none else some authority.host
  | none => none

/-- The origin of a URL, if its scheme has one. -/
def origin? (url : Url) : Option Origin :=
  match url.authority, defaultPort? url.scheme with
  | some authority, some defaultPort =>
    some { scheme := url.scheme, host := authority.host, port := authority.port.getD defaultPort }
  | _, _ => none

/-- The URL without user name and password. -/
def withoutUserInfo (url : Url) : Url :=
  { url with
    authority := url.authority.map fun authority ↦
      { authority with username := "", password := none } }

/-- The URL without its fragment. -/
def withoutFragment (url : Url) : Url :=
  { url with fragment := none }

end Url

end BulkJobs
