import BulkJobs.Proofs.Http.Carrying
import BulkJobs.Proofs.Http.Exchange
import BulkJobs.Proofs.Outcome
import Mathlib.Tactic.SplitIfs

/-!
# One request on its way

A request either becomes no message, or its message is delivered: it meets with a reply, or with
several when they are redirects, and is answered by what arrives of the last one. `Answered` says
which of the two it is, and `Attempt` that it happens between two states of the network; sending a
request is an attempt (`execute_attempt`). An answer that is a response was delivered, and fewer
replies are to come behind it (`Attempt.of_ok`). From a state of the network on there is one way to
deliver a request (`Delivers.unique`), and one to answer it (`Attempt.unique`).
-/

set_option autoImplicit false
set_option relaxedAutoImplicit false

namespace BulkJobs.Http

/-- What a request is answered with when its message is delivered so: what arrives of the last
reply, if it is a success, and a failure otherwise (`Response.accept`). -/
def Delivery.answer (delivery : Delivery) : Except Failure Response :=
  delivery.arrival.bind Response.accept

/-- The response that the last reply of a delivery is when it arrives in full, with the URL of the
message that it answers. -/
def Delivery.whole (delivery : Delivery) : Response :=
  { url := delivery.last.shownUrl, status := delivery.reply.status
    headers := delivery.reply.headers, body := delivery.reply.carriedBody, broken := false }

/-- A response arrives exactly from a reply whose head arrives and that leads to no other URL. It is
broken if the body was cut off behind the head. -/
theorem Delivery.arrival_eq_ok_iff {delivery : Delivery} {response : Response} :
    delivery.arrival = .ok response ↔ delivery.reply.arrives = true ∧
      delivery.last.redirection? delivery.reply = none ∧
      response = { delivery.whole with broken := delivery.reply.fault == some .truncate } := by
  unfold Delivery.arrival Reply.arrives
  simp only
  cases hfault : delivery.reply.fault with
  | none =>
    cases hleads : delivery.last.redirection? delivery.reply with
    | none => simp [Delivery.whole, eq_comm]
    | some url => simp only; split_ifs <;> simp
  | some fault =>
    cases fault with
    | truncate =>
      cases hleads : delivery.last.redirection? delivery.reply with
      | none => simp [Delivery.whole, eq_comm]
      | some url => simp only; split_ifs <;> simp
    | refuse | close | hang => simp

theorem Message.redirection?_of_isFinal {message : Message} {reply : Reply}
    (hfinal : reply.isFinal = true) : message.redirection? reply = none := by
  have hnone : reply.location? = none := Option.isNone_iff_eq_none.mp hfinal
  rw [redirection?, hnone]
  rfl

theorem Delivery.isSuccess_whole_iff (delivery : Delivery) : delivery.whole.isSuccess = true ↔
    200 ≤ delivery.reply.status ∧ delivery.reply.status ≤ 299 := by
  rw [Response.isSuccess, Bool.and_eq_true, decide_eq_true_eq, decide_eq_true_eq]
  rfl

/-- A reply of success whose head arrives (`harrives`) is answered with its response, which is
broken if the body was cut off. -/
theorem Delivery.answer_of_arrives {delivery : Delivery}
    (hstatus : 200 ≤ delivery.reply.status ∧ delivery.reply.status ≤ 299)
    (harrives : delivery.reply.arrives = true) : delivery.answer =
      .ok { delivery.whole with broken := delivery.reply.fault == some .truncate } := by
  have harrival : delivery.arrival =
      .ok { delivery.whole with broken := delivery.reply.fault == some .truncate } :=
    Delivery.arrival_eq_ok_iff.mpr ⟨harrives,
      Message.redirection?_of_isFinal (Reply.isFinal_of_success hstatus), rfl⟩
  rw [Delivery.answer, harrival]
  exact if_pos (delivery.isSuccess_whole_iff.mpr hstatus)

/-- A reply of success that arrives in full (`hfault`) is answered with its response,
`Delivery.whole`. -/
theorem Delivery.answer_of_success {delivery : Delivery}
    (hstatus : 200 ≤ delivery.reply.status ∧ delivery.reply.status ≤ 299)
    (hfault : delivery.reply.fault = none) : delivery.answer = .ok delivery.whole := by
  rw [Delivery.answer_of_arrives hstatus (by rw [Reply.arrives, hfault]; rfl), hfault]
  rfl

/-- Where the host cannot be connected to, the answer is a failure without a status: there was no
reply that could have had one. -/
theorem Delivery.answer_of_isRefused {delivery : Delivery}
    (hrefused : delivery.reply.isRefused = true) :
    ∃ failure, delivery.answer = .error failure ∧ failure.status? = none := by
  have hfault : delivery.reply.fault = some .refuse := beq_iff_eq.mp hrefused
  rw [answer, arrival, hfault]
  exact ⟨_, rfl, rfl⟩

/-- A response that is accepted is one of success, and stays as it is. -/
theorem Response.of_accept {arrived response : Response} (haccept : arrived.accept = .ok response) :
    arrived.isSuccess = true ∧ arrived = response := by
  unfold Response.accept at haccept
  split_ifs at haccept with hsuccess
  · exact ⟨hsuccess, Except.ok.inj haccept⟩
  · simp only at haccept
    split at haccept <;> cases haccept

/-- What is answered with a response is a reply of success of which at least the head arrived; the
response is that reply. -/
theorem Delivery.of_answer {delivery : Delivery} {response : Response}
    (hanswer : delivery.answer = .ok response) :
    (200 ≤ delivery.reply.status ∧ delivery.reply.status ≤ 299) ∧ delivery.reply.arrives = true ∧
      response = { delivery.whole with broken := delivery.reply.fault == some .truncate } := by
  rw [Delivery.answer] at hanswer
  cases harrival : delivery.arrival with
  | error failure =>
    rw [harrival] at hanswer
    cases hanswer
  | ok arrived =>
    rw [harrival] at hanswer
    obtain ⟨hsuccess, rfl⟩ := Response.of_accept hanswer
    obtain ⟨harrives, -, rfl⟩ := Delivery.arrival_eq_ok_iff.mp harrival
    exact ⟨delivery.isSuccess_whole_iff.mp hsuccess, harrives, rfl⟩

/-- A response that did not break off (`hwhole`) is a reply of success that arrived in full, and it
is `Delivery.whole`. -/
theorem Delivery.whole_of_answer {delivery : Delivery} {response : Response}
    (hanswer : delivery.answer = .ok response) (hwhole : response.broken = false) :
    (200 ≤ delivery.reply.status ∧ delivery.reply.status ≤ 299) ∧ delivery.reply.fault = none ∧
      response = delivery.whole := by
  obtain ⟨hstatus, harrives, rfl⟩ := Delivery.of_answer hanswer
  have hfull : delivery.reply.fault = none := by
    have hunbroken : (delivery.reply.fault == some .truncate) = false := hwhole
    rw [Reply.arrives, hunbroken, Bool.or_false, beq_iff_eq] at harrives
    exact harrives
  exact ⟨hstatus, hfull, by rw [hfull]; rfl⟩

/-- A response carries the body of the reply that was delivered last, as far as a reply with its
status has one (`Reply.carriedBody`). -/
theorem Delivery.body_of_answer {delivery : Delivery} {response : Response}
    (hanswer : delivery.answer = .ok response) : response.body = delivery.reply.carriedBody := by
  obtain ⟨-, -, rfl⟩ := Delivery.of_answer hanswer
  rfl

/-- A response comes from a reply that was to come: a message whose host cannot be connected to, and
one that no reply is meant for, is answered with a failure. -/
theorem Delivery.isTaken_of_answer {delivery : Delivery} {response : Response}
    (hanswer : delivery.answer = .ok response) : delivery.reply.IsTaken := by
  obtain ⟨hstatus, harrives, -⟩ := Delivery.of_answer hanswer
  refine ⟨fun hnone ↦ ?_, fun hrefused ↦ ?_⟩
  · rw [hnone] at hstatus
    exact absurd hstatus.2 (by decide)
  · rw [hrefused] at harrives
    cases harrives

theorem readJson_of_decode {α : Type} {decode : Json.Decoder α} {response : Response} {value : α}
    (hwhole : response.broken = false)
    (hdecode : Json.decodeText decode response.body = .ok value) :
    response.readJson decode = .ok value := by
  have hbytes : response.readBytes = .ok response.body := by
    simp [Response.readBytes, hwhole]
  unfold Response.readJson
  rw [hbytes]
  simp only [bind, Except.bind, hdecode]
  rfl

/-- Bytes are read from a response exactly when it did not break off, and then they are its body. -/
theorem of_readBytes {response : Response} {bytes : Octets}
    (hread : response.readBytes = .ok bytes) : response.broken = false ∧ bytes = response.body := by
  unfold Response.readBytes at hread
  split_ifs at hread with hbroken
  cases hread
  exact ⟨Bool.not_eq_true _ ▸ hbroken, rfl⟩

theorem decode_of_readJson {α : Type} {decode : Json.Decoder α} {response : Response} {value : α}
    (hread : response.readJson decode = .ok value) :
    response.broken = false ∧ Json.decodeText decode response.body = .ok value := by
  obtain ⟨bytes, hbytes, hdecode⟩ := bind_eq_ok_iff.mp hread
  obtain ⟨hwhole, rfl⟩ := of_readBytes hbytes
  split at hdecode
  · cases hdecode
    exact ⟨hwhole, ‹_›⟩
  · cases hdecode

/-- How a request can be answered: with the failure to build it, and then there is no delivery, or
with what arrives when its message is delivered, the redirects that are followed for it included. -/
inductive Answered (config : Config) (request : Request) :
    Option Delivery → Except Failure Response → Prop where
  | unfit {failure : Failure} : request.prepare config = .error failure →
      Answered config request none (.error failure)
  | delivered {delivery : Delivery} : request.prepare config = .ok delivery.message →
      Followed redirectLimit delivery.message delivery →
      Answered config request (some delivery) delivery.answer

/-- Whether a request is answered so between two states of the network (`Answered`), and the
delivery, if there is one, is all that happens there (`Received`). -/
structure Attempt (config : Config) (request : Request) (traffic : Traffic)
    (delivery : Option Delivery) (answer : Except Failure Response) (traffic' : Traffic) :
    Prop where
  answered : Answered config request delivery answer
  received : Received traffic delivery.toList traffic'

theorem execute_of_error {config : Config} {request : Request} {failure : Failure}
    (hprepare : request.prepare config = .error failure) (traffic : Traffic) :
    execute config request traffic = (.error failure, traffic) :=
  Exchange.ofExcept_bind_of_error hprepare traffic

/-- A request that can be built (`hprepare`) is answered with what comes of carrying its message,
and leaves the network in the state that this leads to. -/
theorem execute_of_ok {config : Config} {request : Request} {message : Message}
    (hprepare : request.prepare config = .ok message) (traffic : Traffic) :
    execute config request traffic =
      (((Process.carry redirectLimit message).run traffic).1.answer,
        ((Process.carry redirectLimit message).run traffic).2) := by
  have hdeliver : deliver message traffic =
      (((Process.carry redirectLimit message).run traffic).1.arrival,
        ((Process.carry redirectLimit message).run traffic).2) := rfl
  unfold execute
  rw [Exchange.ofExcept_bind_of_ok hprepare, Delivery.answer]
  cases harrival : ((Process.carry redirectLimit message).run traffic).1.arrival with
  | error failure =>
    rw [harrival] at hdeliver
    exact Exchange.bind_of_error hdeliver
  | ok response =>
    rw [harrival] at hdeliver
    exact Exchange.bind_of_ok hdeliver

/-- A request that can be built (`hprepare`) is delivered: just one delivery happens on the network,
that of its message, and the answer is that of the delivery. -/
theorem execute_delivers {config : Config} {request : Request} {message : Message}
    (hprepare : request.prepare config = .ok message) (traffic : Traffic) :
    ∃ delivery traffic', delivery.message = message ∧ Received traffic [delivery] traffic' ∧
      execute config request traffic = (delivery.answer, traffic') := by
  obtain ⟨hmessage, hreceived⟩ := received_carry message traffic
  exact ⟨_, _, hmessage, hreceived, execute_of_ok hprepare traffic⟩

/-- A request that can be built, and whose message meets with a reply that is not followed
(`hlast`), is answered with that reply, and nothing else happens. -/
theorem execute_of_pass {config : Config} {request : Request} {message : Message} {reply : Reply}
    {traffic traffic' : Traffic} (hprepare : request.prepare config = .ok message)
    (hpass : traffic.pass message = (reply, traffic')) (hlast : message.next? reply = none) :
    execute config request traffic = (Delivery.answer ⟨message, [], reply⟩, traffic') := by
  rw [execute_of_ok hprepare, carry_of_pass hpass hlast]

/-- Where the next reply is for a message (`hfor`) and hosts can be connected to, the message takes
it. -/
theorem pass_of_isFor {message : Message} {reply : Reply} (hfor : reply.isFor message = true)
    (replies : List Reply) (sent : List Message) :
    Traffic.pass message ⟨true, reply :: replies, sent⟩ =
      (reply, ⟨true, replies, sent ++ sentOf [(message, reply)]⟩) := by
  rw [Traffic.pass, if_pos rfl, Reply.take, if_pos hfor]

/-- Where the next reply is for the message of a request (`hfor`) and leads nowhere else (`hfinal`),
the request is answered with it, and its message is all that is sent. -/
theorem execute_of_reply {config : Config} {request : Request} {message : Message} {reply : Reply}
    (hprepare : request.prepare config = .ok message) (hfor : reply.isFor message = true)
    (hfinal : reply.isFinal = true) (hsent : reply.isRefused = false) (replies : List Reply)
    (sent : List Message) :
    execute config request ⟨true, reply :: replies, sent⟩ =
      (Delivery.answer ⟨message, [], reply⟩, ⟨true, replies, sent ++ [message]⟩) := by
  rw [execute_of_pass hprepare (pass_of_isFor hfor replies sent) (Message.next?_of_isFinal hfinal)]
  simp [sentOf, hsent]

/-- Whether a request becomes a message that is delivered so between two states of the network. From
one state on there is at most one such delivery (`Delivers.unique`). -/
structure Delivers (config : Config) (request : Request) (traffic : Traffic) (delivery : Delivery)
    (traffic' : Traffic) : Prop where
  built : request.prepare config = .ok delivery.message
  received : Received traffic [delivery] traffic'

namespace Delivers

variable {config : Config} {request : Request} {traffic traffic' : Traffic} {delivery : Delivery}

theorem run_eq (h : Delivers config request traffic delivery traffic') :
    (Process.carry redirectLimit delivery.message).run traffic = (delivery, traffic') := by
  obtain ⟨hfollowed, hpassed⟩ := Received.single_iff.mp h.received
  exact hfollowed.run_eq hpassed

theorem prepare_ne_error (h : Delivers config request traffic delivery traffic')
    {failure : Failure} : request.prepare config ≠ .error failure := by
  rw [h.built]
  nofun

theorem unique {other : Delivery} {after : Traffic}
    (h : Delivers config request traffic delivery traffic')
    (hother : Delivers config request traffic other after) :
    delivery = other ∧ traffic' = after := by
  have hmessage : delivery.message = other.message :=
    Except.ok.inj (h.built.symm.trans hother.built)
  have hrun := h.run_eq
  rw [hmessage, hother.run_eq] at hrun
  exact ⟨(Prod.mk.inj hrun).1.symm, (Prod.mk.inj hrun).2.symm⟩

end Delivers

/-- From one state of the network on, a request is answered in one way only. -/
theorem Attempt.unique {config : Config} {request : Request} {traffic traffic' traffic'' : Traffic}
    {delivery delivery' : Option Delivery} {answer answer' : Except Failure Response}
    (h : Attempt config request traffic delivery answer traffic')
    (hother : Attempt config request traffic delivery' answer' traffic'') :
    delivery = delivery' ∧ answer = answer' ∧ traffic' = traffic'' := by
  obtain ⟨hanswered, hreceived⟩ := h
  obtain ⟨hanswered', hreceived'⟩ := hother
  cases hanswered with
  | unfit hprepare =>
    cases hanswered' with
    | unfit hprepare' =>
      rw [hprepare] at hprepare'
      cases hprepare'
      exact ⟨rfl, rfl, hreceived.eq_of_nil.trans hreceived'.eq_of_nil.symm⟩
    | delivered hprepare' hfollowed' =>
      rw [hprepare] at hprepare'
      cases hprepare'
  | delivered hprepare hfollowed =>
    have hdelivers : Delivers config request traffic _ traffic' := ⟨hprepare, hreceived⟩
    cases hanswered' with
    | unfit hprepare' => exact absurd hprepare' hdelivers.prepare_ne_error
    | delivered hprepare' hfollowed' =>
      obtain ⟨rfl, rfl⟩ := hdelivers.unique ⟨hprepare', hreceived'⟩
      exact ⟨rfl, rfl, rfl⟩

/-- Sending a request is an attempt: it is answered with the failure to build it, or with the answer
of the one delivery that happens (`Attempt`). -/
theorem execute_attempt (config : Config) (request : Request) (traffic : Traffic) :
    ∃ delivery, Attempt config request traffic delivery (execute config request traffic).1
      (execute config request traffic).2 := by
  cases hprepare : request.prepare config with
  | error failure =>
    rw [execute_of_error hprepare]
    exact ⟨none, .unfit hprepare, .nil traffic⟩
  | ok message =>
    obtain ⟨delivery, traffic', rfl, hreceived, hrun⟩ := execute_delivers hprepare traffic
    rw [hrun]
    exact ⟨some delivery, .delivered hprepare (Received.single_iff.mp hreceived).1, hreceived⟩

/-- Where no host can be connected to (`hunreachable`), nothing is sent and no reply is taken, so
the network stays as it is. -/
theorem execute_of_unreachable (config : Config) (request : Request) {traffic : Traffic}
    (hunreachable : traffic.reachable = false) :
    (execute config request traffic).2 = traffic := by
  cases hprepare : request.prepare config with
  | error failure => rw [execute_of_error hprepare]
  | ok message =>
    have hpass : traffic.pass message = (.refused, traffic) := by
      rw [Traffic.pass, if_neg (by rw [hunreachable]; exact Bool.false_ne_true)]
    rw [execute_of_pass hprepare hpass (Message.next?_of_lost rfl)]

namespace Answered

variable {config : Config} {request : Request} {delivery : Option Delivery}
  {answer : Except Failure Response}

/-- A request that is answered with a response was delivered, and at least one of the replies that
were to come was taken for it. -/
theorem of_ok {response : Response} (h : Answered config request delivery (.ok response)) :
    ∃ carried, delivery = some carried ∧ carried.answer = .ok response ∧
      0 < carried.hops.countP (·.2.IsTaken) := by
  generalize hanswer : Except.ok response = answer at h
  cases h with
  | unfit hprepare => cases hanswer
  | @delivered carried hprepare hfollowed =>
    refine ⟨carried, rfl, rfl, List.countP_pos_iff.mpr ⟨_, carried.mem_hops, ?_⟩⟩
    exact decide_eq_true (Delivery.isTaken_of_answer hanswer.symm)

/-- The message of a request is delivered exactly when it can be built, whatever the answer is
then. -/
theorem isSome_iff (h : Answered config request delivery answer) :
    delivery.isSome ↔ ∃ message, request.prepare config = .ok message := by
  cases h with
  | unfit hprepare => simp [hprepare]
  | delivered hprepare hfollowed => simp [hprepare]

end Answered

/-- An attempt that is answered with a response was delivered, and fewer replies are to come behind
it. This is what bounds loops that go on from response to response. -/
theorem Attempt.of_ok {config : Config} {request : Request} {traffic traffic' : Traffic}
    {delivery : Option Delivery} {response : Response}
    (h : Attempt config request traffic delivery (.ok response) traffic') :
    (∃ carried, delivery = some carried ∧ carried.answer = .ok response) ∧
      traffic'.replies.length < traffic.replies.length := by
  obtain ⟨hanswered, hreceived⟩ := h
  obtain ⟨carried, rfl, hanswer, htaken⟩ := hanswered.of_ok
  have hlength := (Received.single_iff.mp hreceived).2.length_le
  exact ⟨⟨carried, rfl, hanswer⟩, by omega⟩

end BulkJobs.Http
