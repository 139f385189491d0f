import BulkJobs.Http.Delivery

/-!
# Traffic

Everything that goes over the network is a computation over `Traffic`: the replies that are still to
come and the messages that were sent. A `Process` stops at each message until there is a reply to
it, so that several of them can take turns; an `Exchange` is carried out at once, and may fail, but
what it sent stays sent.
-/

set_option autoImplicit false
set_option relaxedAutoImplicit false

namespace BulkJobs.Http

/-- The state of a network: what it will reply, and what was sent over it. -/
structure Traffic where
  /-- Whether any host can be connected to at all. -/
  reachable : Bool := true
  replies : List Reply := []
  /-- The messages that were sent, in order. One whose host could not be connected to is none of
  them. -/
  sent : List Message := []
deriving DecidableEq, Repr

/-- Send one message, which takes the first reply that is meant for it. A message whose host cannot
be connected to is not sent. -/
def Traffic.pass (message : Message) (traffic : Traffic) : Reply × Traffic :=
  if traffic.reachable then
    let (reply, replies) := Reply.take message traffic.replies
    (reply, { traffic with replies, sent := traffic.sent ++ sentOf [(message, reply)] })
  else (.refused, traffic)

/-! ### Processes -/

/-- A computation that stops at each message it sends, and goes on with the reply to it, whatever
the network is. -/
inductive Process (α : Type) where
  | done (result : α)
  | send (message : Message) (receive : Reply → Process α)

namespace Process

/-- The process that goes on with another one when it is done. -/
def andThen {α β : Type} : Process α → (α → Process β) → Process β
  | .done result, next => next result
  | .send message receive, next => .send message fun reply ↦ (receive reply).andThen next

instance : Monad Process where
  pure := .done
  bind := andThen

/-- Carry out a process by itself over a network, which passes its messages one by one. -/
def run {α : Type} : Process α → Traffic → α × Traffic
  | .done result, traffic => (result, traffic)
  | .send message receive, traffic =>
    let (reply, traffic) := traffic.pass message
    (receive reply).run traffic

/-- Two processes that take turns: each entry says whether the first of them goes on with its
message. When the turns are used up or one of the two is done, the first goes on to its end. -/
def join {α β : Type} : List Bool → Process α → Process β → Process (α × β)
  | turn :: turns, .send message receive, .send other receive' =>
    if turn then .send message fun reply ↦ join turns (receive reply) (.send other receive')
    else .send other fun reply ↦ join turns (.send message receive) (receive' reply)
  | _, first, second => do return (← first, ← second)

/-- Send a message and follow the redirects that it is answered with, at most so many. -/
def carry : Nat → Message → Process Delivery
  | 0, message => .send message fun reply ↦ .done { message, reply }
  | hops + 1, message => .send message fun reply ↦
    match message.next? reply with
    | some next => .behind message reply <$> carry hops next
    | none => .done { message, reply }

end Process

/-! ### Exchanges -/

/-- A computation over a network, which may fail and leaves the network as it is then. -/
abbrev Exchange (ε α : Type) :=
  ExceptT ε (StateM Traffic) α

namespace Exchange

/-- A result without traffic. -/
def ofExcept {ε α : Type} (result : Except ε α) : Exchange ε α :=
  fun traffic ↦ (result, traffic)

/-- The computation with another type of failures. -/
def mapFailure {ε ε' α : Type} (f : ε → ε') (exchange : Exchange ε α) : Exchange ε' α :=
  fun traffic ↦
    let (result, traffic) := exchange traffic
    (result.mapError f, traffic)

/-- The result of a computation as a value, so that the computation itself does not fail. -/
def attempt {ε ε' α : Type} (exchange : Exchange ε α) : Exchange ε' (Except ε α) :=
  fun traffic ↦
    let (result, traffic) := exchange traffic
    (.ok result, traffic)

end Exchange

/-- Send a message, follow the redirects that it is answered with, and wait for what arrives in the
end. -/
def deliver (message : Message) : Exchange Failure Response := fun traffic ↦
  let (delivery, traffic) := (Process.carry redirectLimit message).run traffic
  (delivery.arrival, traffic)

/-- Send a request, if it can be prepared. A reply that is not a success is a failure
(`Response.accept`). -/
def execute (config : Config) (request : Request) : Exchange Failure Response := do
  let message ← Exchange.ofExcept (request.prepare config)
  let response ← deliver message
  Exchange.ofExcept response.accept

/-- Send a request and decode the body of the reply from JSON (`Response.readJson`). -/
def executeJson {α : Type} (config : Config) (decode : Json.Decoder α) (request : Request) :
    Exchange Failure α := do
  let response ← execute config request
  Exchange.ofExcept (response.readJson decode)

end BulkJobs.Http
