import BulkJobs.Http.Refusal
import BulkJobs.Http.Reply

/-!
# Responses

A reply that arrived, at least its head. Reading its body fails when the body broke off.
-/

set_option autoImplicit false
set_option relaxedAutoImplicit false

namespace BulkJobs.Http

/-- A reply that arrived, at least with its head. -/
structure Response where
  /-- The URL the reply came from, as it is shown in failures. -/
  url : String
  status : Nat
  headers : List Header
  body : Octets
  broken : Bool
deriving DecidableEq, Repr

namespace Response

/-- Whether the service did what it was asked for: the status is one of those from 200 on and below
300. -/
def isSuccess (response : Response) : Bool :=
  200 ≤ response.status && response.status ≤ 299

/-- The value of a header, if it reads as text. -/
def header? (response : Response) (name : String) : Option String :=
  Header.find? name response.headers

/-- The number of 64 bits that a text denotes; it may have a plus sign. -/
def natural64? (text : String) : Option Nat :=
  let digits := match text.toList with
    | '+' :: digits => digits
    | digits => digits
  (Text.decimal? digits).filter (· < Nat.pow 2 64)

/-- How long the service asks to wait, if it says so in seconds. -/
def retryAfter? (response : Response) : Option Span :=
  ((response.header? "retry-after").bind natural64?).map Span.ofSeconds

/-- The locator of the next page of results, if there is one; the service also has a word for
none. -/
def locator? (response : Response) : Option String :=
  (response.header? "sforce-locator").filter fun locator ↦ locator != "null" && locator != ""

/-- The kind of content of the body. -/
def contentType? (response : Response) : Option String :=
  response.header? "content-type"

/-- The body as bytes, all of which must have arrived. -/
def readBytes (response : Response) : Except Failure Octets :=
  if response.broken then
    .error (.dueTo (.json ("error decoding response body for url (" ++ response.url ++ ")")))
  else .ok response.body

/-- The body as bytes that are taken as they arrive. -/
def streamBytes (response : Response) : Except Failure Octets :=
  if response.broken then .error (.dueTo (.json "error decoding response body"))
  else .ok response.body

/-- The body as text; what is not valid UTF-8 is replaced. -/
def readText (response : Response) : Except Failure String :=
  response.readBytes.map Utf8.decodeLossy

/-- The body decoded from JSON by a decoder; what keeps it from being decoded is in the failure. -/
def readJson {α : Type} (decode : Json.Decoder α) (response : Response) : Except Failure α := do
  let source ← response.readBytes
  match Json.decodeText decode source with
  | .ok value => return value
  | .error problem => throw (.dueTo (.json problem.message))

/-- The response if it is a success, and otherwise the failure it amounts to. A body that broke off
counts as empty, and a rate limit keeps the time that the service asks to wait. -/
def accept (response : Response) : Except Failure Response :=
  if response.isSuccess then .ok response
  else
    let body := match response.readText with
      | .ok text => text
      | .error _ => ""
    match refusal response.status body with
    | .rateLimited _ => .error (.plain (.rateLimited response.retryAfter?))
    | kind => .error (.plain kind)

end Response

end BulkJobs.Http
