import BulkJobs.Http.Header
import BulkJobs.Http.Request

/-!
# Replies

A network is a script of replies. Each message takes the first reply that is meant for it. A reply
may not arrive in full, or not at all; and the place of a reply may be taken by a host that refuses
the connection, so that the message itself does not get through.
-/

set_option autoImplicit false
set_option relaxedAutoImplicit false

namespace BulkJobs.Http

/-- What can happen in place of a reply that arrives in full. -/
inductive Fault where
  /-- The host cannot be connected to, so that the message is not sent. -/
  | refuse
  /-- The connection is closed before anything arrives. -/
  | close
  /-- Nothing arrives until the time that the settings allow is up. -/
  | hang
  /-- The head arrives and the body breaks off, or its coding cannot be undone. -/
  | truncate
deriving DecidableEq, Repr

/-- A scripted reply. It is described as the layer below hands it on: a coding of the body that the
client has offered to accept is undone, and the headers about that coding are gone. -/
structure Reply where
  /-- The one kind of request the reply is for, as method, blank and URL. -/
  only : Option String := none
  status : Nat := 200
  headers : List Header := []
  /-- The content of the body, with no coding on it that was offered. -/
  body : Octets := []
  fault : Option Fault := none
deriving DecidableEq, Repr

namespace Reply

/-- Whether a reply is meant for a message. -/
def isFor (message : Message) (reply : Reply) : Bool :=
  match reply.only with
  | some target => target == message.method.name ++ " " ++ message.target
  | none => true

/-- Whether a reply stands for a host that cannot be connected to. -/
def isRefused (reply : Reply) : Bool :=
  reply.fault == some .refuse

/-- Whether at least the head of a reply arrives. -/
def arrives (reply : Reply) : Bool :=
  reply.fault == none || reply.fault == some .truncate

/-- What a message meets with where no host can be connected to. -/
def refused : Reply :=
  { fault := some .refuse }

/-- The answer to a message that no reply is meant for: the service does not know of anything
there. -/
def unscripted : Reply :=
  { status := 500, body := Utf8.encode "no scripted reply" }

/-- The first reply meant for a message, and the replies without it. -/
def take (message : Message) : List Reply → Reply × List Reply
  | [] => (unscripted, [])
  | reply :: replies =>
    if reply.isFor message then (reply, replies)
    else
      let (taken, rest) := take message replies
      (taken, reply :: rest)

/-- The body that a reply carries: replies without content have none. -/
def carriedBody (reply : Reply) : Octets :=
  if reply.status == 204 || reply.status == 304 then [] else reply.body

end Reply

end BulkJobs.Http
