import BulkJobs.Http.Redirect
import BulkJobs.Http.Response

/-!
# Deliveries

What becomes of a message: the redirects that are followed for it, the reply that ends it, and what
arrives of that reply.
-/

set_option autoImplicit false
set_option relaxedAutoImplicit false

namespace BulkJobs.Http

/-- The messages that were sent, among some that were to be sent and met with a reply each: those
whose host could be connected to. -/
def sentOf (hops : List (Message × Reply)) : List Message :=
  hops.filterMap fun (message, reply) ↦ if reply.isRefused then none else some message

/-- A message with what came of sending it: the redirects that were followed from it and the reply
that was not. -/
structure Delivery where
  message : Message
  /-- The redirects that were followed, each with the message that was sent on account of it. -/
  redirects : List (Reply × Message) := []
  reply : Reply
deriving DecidableEq, Repr

namespace Delivery

/-- The delivery of a message whose reply is followed: it goes on as the delivery of the next one.
-/
def behind (message : Message) (reply : Reply) (later : Delivery) : Delivery where
  message := message
  redirects := (reply, later.message) :: later.redirects
  reply := later.reply

/-- The message that the last reply answers: the one that the last redirect led to, or the first
one. -/
def last (delivery : Delivery) : Message :=
  (delivery.redirects.map (·.2)).getLastD delivery.message

/-- All messages of a delivery, each with the reply to it, in their order. -/
def hops (delivery : Delivery) : List (Message × Reply) :=
  (delivery.message :: delivery.redirects.map (·.2)).zip
    (delivery.redirects.map (·.1) ++ [delivery.reply])

/-- The messages that were sent: the one to be delivered and those that redirects led to, but for
one whose host could not be connected to. -/
def messages (delivery : Delivery) : List Message :=
  sentOf delivery.hops

/-- What arrives. A failure on the way is shown with the URL of the message to be delivered, and a
redirect that is not followed is a failure: there were too many before it, or it leads to a URL that
is none of the web. -/
def arrival (delivery : Delivery) : Except Failure Response :=
  let lost := "error sending request for url (" ++ delivery.message.shownUrl ++ ")"
  match delivery.reply.fault with
  | some .refuse => .error (.dueTo (.connection lost))
  | some .close => .error (.dueTo (.other lost))
  | some .hang => .error (.dueTo .timeout)
  | fault =>
    match delivery.last.redirection? delivery.reply with
    | some url =>
      if url.scheme == "http" || url.scheme == "https" then
        .error (.dueTo (.other
          ("error following redirect for url (" ++ delivery.last.shownUrl ++ ")")))
      else .error (unbuildableFor url)
    | none =>
      .ok {
        url := delivery.last.shownUrl
        status := delivery.reply.status
        headers := delivery.reply.headers
        body := delivery.reply.carriedBody
        broken := fault == some .truncate }

end Delivery

end BulkJobs.Http
