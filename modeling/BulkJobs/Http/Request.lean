import BulkJobs.Http.Config
import BulkJobs.Json.Writer
import BulkJobs.Text.Base64
import BulkJobs.Text.Form

/-!
# Requests

A `Request` is put together step by step and may still be unfit to be sent. Preparing it yields the
`Message` that goes over the wire, or says what is wrong: first with the URL, then with the headers,
then with the way to the host.
-/

set_option autoImplicit false
set_option relaxedAutoImplicit false

namespace BulkJobs.Http

inductive Method where
  | get
  | post
  | patch
  | put
  | delete
deriving DecidableEq, Repr

/-- The name of a method on the wire. -/
def Method.name : Method → String
  | .get => "GET"
  | .post => "POST"
  | .patch => "PATCH"
  | .put => "PUT"
  | .delete => "DELETE"

/-- The body of a request, which also says what kind of content it announces. -/
inductive Body where
  | json (value : Json)
  | text (content : String)
  | bytes (content : Octets)
deriving Repr

def Body.encode : Body → Octets
  | .json value => Utf8.encode value.compact
  | .text content => Utf8.encode content
  | .bytes content => content

/-- A request under construction; nothing of it is checked before `prepare`. -/
structure Request where
  method : Method
  url : String
  /-- Header names and values; names of different case are different here. -/
  headers : List (String × String) := []
  query : List (String × String) := []
  body : Option Body := none
  bearer : Option String := none
deriving Repr

namespace Request

/-- Authorize the request with a bearer token, which becomes a header when the request is
prepared. -/
def authorized (request : Request) (token : String) : Request :=
  { request with bearer := some token }

/-- Set a header, in place of one with the same spelling of its name. -/
def withHeader (request : Request) (name value : String) : Request :=
  { request with headers := request.headers.filter (·.1 != name) ++ [(name, value)] }

/-- Add a parameter to the query, behind those that it has. -/
def withQuery (request : Request) (name value : String) : Request :=
  { request with query := request.query ++ [(name, value)] }

def withJson (request : Request) (value : Json) : Request :=
  { request with body := some (.json value) }.withHeader "Content-Type" "application/json"

def withText (request : Request) (content : String) : Request :=
  { request with body := some (.text content) }.withHeader "Content-Type" "text/plain"

/-- Set a body of bytes, whatever they mean. -/
def withBytes (request : Request) (content : Octets) : Request :=
  { request with body := some (.bytes content) }

/-- Set a body of CSV data. -/
def withCsv (request : Request) (content : Octets) : Request :=
  (request.withBytes content).withHeader "Content-Type" "text/csv"

def acceptingCsv (request : Request) : Request :=
  request.withHeader "Accept" "text/csv"

end Request

/-- A request as it goes over the wire. -/
structure Message where
  method : Method
  url : Url
  headers : List Header
  body : Octets
deriving DecidableEq, Repr

namespace Message

/-- The URL a message is sent to, as it is written. -/
def target (message : Message) : String :=
  message.url.withoutFragment.write

/-- The URL of a message as failures show it, which is the whole URL, with its fragment. -/
def shownUrl (message : Message) : String :=
  message.url.write

end Message

/-- The failure of a request that cannot be built, for no reason that its URL would explain. -/
def unbuildable : Failure :=
  .dueTo (.other "builder error")

/-- The failure of a request that cannot be built because of its URL. -/
def unbuildableFor (url : Url) : Failure :=
  .dueTo (.other ("builder error for url (" ++ url.write ++ ")"))

/-- The value of an authorization header for a name and a password. -/
def basicCredentials (username password : String) : String :=
  "Basic " ++ .ofList (Base64.encode (Utf8.encode (username ++ ":" ++ password)))

namespace Request

/-- The name and the password in a URL, percent decoded, if there is anything. -/
def urlCredentials? (url : Url) : Option (String × String) := do
  let authority ← url.authority
  let plain := fun (text : String) ↦ Utf8.decode? (Percent.decode (Utf8.encode text))
  let username ← plain authority.username
  let password := authority.password.bind plain
  if username.isEmpty && password.isNone then none else some (username, password.getD "")

/-- The URL with the parameters added to its query. -/
def addQuery (url : Url) (parameters : List (String × String)) : Url :=
  if parameters.isEmpty then url
  else { url with query := some (.ofList (Form.append (url.query.getD "").toList parameters)) }

/-- Whether a URL can be carried by a request line: its host must not hold quotes or braces, and it
must not be too long. -/
def isCarriable (url : Url) : Bool :=
  let host := match url.host? with
    | some host => host.write
    | none => []
  url.write.utf8ByteSize ≤ 65534 && !host.any ['"', '\x60', '\x7b', '\x7d'].contains

/-- The headers that the request asks for: authorization first, then the others. -/
def ownHeaders? (request : Request) (credentials : Option (String × String)) :
    Option (List Header) := do
  let basic := match credentials with
    | some (username, password) => [("Authorization", basicCredentials username password)]
    | none => []
  let bearer := match request.bearer with
    | some token => [("Authorization", "Bearer " ++ token)]
    | none => []
  (basic ++ bearer ++ request.headers).mapM fun (name, value) ↦ Header.make? name value

/-- Headers that every request with these settings carries unless it has its own. -/
def completeHeaders (config : Config) (url : Url) (hasJsonBody : Bool) (own : List Header) :
    List Header :=
  let json :=
    if hasJsonBody then Header.addIfAbsent ⟨"content-type", "application/json"⟩ own else own
  let agent := Header.addIfAbsent ⟨"user-agent", config.userAgent⟩
    (Header.addIfAbsent ⟨"accept", "*/*"⟩ json)
  let encoding :=
    if config.compression.isOffered && !Header.has "range" agent then
      Header.addIfAbsent ⟨"accept-encoding", "gzip,deflate"⟩ agent
    else agent
  let proxy := if url.scheme == "http" then config.proxy.filter (·.endpoint?.isSome) else none
  match proxy.bind (·.username), proxy.bind (·.password) with
  | some username, some password =>
    Header.addIfAbsent ⟨"proxy-authorization", basicCredentials username password⟩ encoding
  | _, _ => encoding

/-- Whether the body of the request is JSON. -/
def hasJsonBody (request : Request) : Bool :=
  match request.body with
  | some (.json _) => true
  | _ => false

/-- The message that the request becomes, if its URL can be read, has a host and fits a request
line, and if its headers are fit to be sent. -/
def prepare (config : Config) (request : Request) : Except Failure Message := do
  let .ok written := Url.parse request.url | throw unbuildable
  if written.host?.isNone then throw (unbuildableFor written)
  let credentials := urlCredentials? written
  let located := if credentials.isSome then written.withoutUserInfo else written
  let some own := request.ownHeaders? credentials | throw unbuildable
  let url := addQuery located request.query
  if url.scheme != "http" && url.scheme != "https" || !isCarriable url then
    throw (unbuildableFor url)
  return {
    method := request.method, url,
    headers := completeHeaders config url request.hasJsonBody own,
    body := match request.body with
      | some body => body.encode
      | none => [] }

end Request

end BulkJobs.Http
