import BulkJobs.Http.Reply
import BulkJobs.Url.Join

/-!
# Redirects

A reply may send a request on to another URL. The sender follows such replies by itself, also to
other hosts, up to a limit; what it sends there is made from the message that was answered so.
-/

set_option autoImplicit false
set_option relaxedAutoImplicit false

namespace BulkJobs.Http

/-- The number of redirects that are followed for one request at most. It is the default of the
client library, as nothing sets another policy. -/
def redirectLimit : Nat :=
  10

namespace Reply

/-- Where a reply leads, as it says so itself: the value of its first header `location`, when its
status is one that sends requests on. -/
def location? (reply : Reply) : Option String :=
  if [301, 302, 303, 307, 308].contains reply.status then
    (reply.headers.find? (·.name == "location")).map (·.value)
  else none

/-- Whether a reply leads nowhere else, so that nothing is sent on account of it. -/
def isFinal (reply : Reply) : Bool :=
  reply.location?.isNone

end Reply

namespace Message

/-- The URL that a reply sends a message on to, if it leads anywhere: its location is read as a
reference from the URL of the message, and one that no request line could carry is left alone. -/
def redirection? (message : Message) (reply : Reply) : Option Url := do
  let location ← reply.location?
  let url ← (message.url.join location).toOption
  if Request.isCarriable url then some url.withoutFragment else none

/-- Whether a message that is sent on asks for the new URL with `GET` and without a body: with the
status 303 any message does, with 301 and 302 one that was posted. -/
def becomesGet (method : Method) (status : Nat) : Bool :=
  status == 303 || (method == .post && (status == 301 || status == 302))

/-- The names of headers that say something about a body, and go with it. -/
def bodyHeaders : List String :=
  ["content-type", "content-length", "content-encoding", "transfer-encoding"]

/-- The names of headers that are for one host alone. -/
def hostHeaders : List String :=
  ["authorization", "cookie", "cookie2", "proxy-authorization", "www-authenticate"]

/-- Whether two URLs of the web have the same host and port. Their schemes may differ. -/
def sharesHost (url other : Url) : Bool :=
  url.origin?.map (fun origin ↦ (origin.host, origin.port)) ==
    other.origin?.map fun origin ↦ (origin.host, origin.port)

/-- The header that says where a message was sent on from, which is kept from a URL that is less
safe. -/
def referer? (origin target : Url) : Option Header :=
  if origin.scheme == "https" && target.scheme == "http" then none
  else some ⟨"referer", origin.withoutUserInfo.withoutFragment.write⟩

/-- The headers that a message is sent on with: those about its body go with the body, those for one
host do not go to another. -/
def headersOnward (message : Message) (status : Nat) (url : Url) : List Header :=
  let unbodied :=
    if becomesGet message.method status then
      message.headers.filter fun header ↦ !bodyHeaders.contains header.name
    else message.headers
  let kept :=
    if sharesHost message.url url then unbodied
    else unbodied.filter fun header ↦ !hostHeaders.contains header.name
  match referer? message.url url with
  | some referer => kept.filter (·.name != "referer") ++ [referer]
  | none => kept

/-- The message that is sent to another URL in place of one that was answered with a status. -/
def onward (message : Message) (status : Nat) (url : Url) : Message where
  method := if becomesGet message.method status then .get else message.method
  url := url
  headers := message.headersOnward status url
  body := if becomesGet message.method status then [] else message.body

/-- The message that is sent next on account of a reply, if one is: the head of the reply must have
arrived, and it must lead to a URL of the web. -/
def next? (message : Message) (reply : Reply) : Option Message :=
  if reply.arrives then
    let target := (message.redirection? reply).filter fun url ↦
      url.scheme == "http" || url.scheme == "https"
    target.map (message.onward reply.status)
  else none

end Message

end BulkJobs.Http
