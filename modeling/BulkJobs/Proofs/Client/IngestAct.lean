import BulkJobs.Client.Ingest
import BulkJobs.Proofs.Failure
import BulkJobs.Proofs.Http.Delivery
import BulkJobs.Proofs.Http.Preparing

/-!
# Acts in the life of an ingest job

An act is one request for an ingest job with what became of it: the delivery, if the request could
be built, and what was read from the answer. `Recorded` says that acts happened one after another
and nothing else did, so that the messages that were sent are those of the acts, in order
(`Recorded.sent_eq`). Each operation on a job that consists of one request performs one act
(`performs_upload` and its siblings).
-/

set_option autoImplicit false
set_option relaxedAutoImplicit false

namespace BulkJobs

open Http (Attempt Delivery Message Response Traffic)

/-- A request for an ingest job, by what it does to the job of an id. -/
inductive IngestStep where
  | create
  | upload (id : String)
  | close (id : String)
  | abort (id : String)
  | look (id : String)
  | fetch (artifact : Artifact) (id : String)
deriving DecidableEq, Repr

/-- What is read from the answer to a request: a job, a table, or nothing. -/
inductive StepYield where
  | job (job : IngestJob)
  | nothing
  | table (set : ResultSet)

namespace IngestStep

/-- The request of a step, in a run with a draft and data. -/
def request (client : Client) (draft : IngestDraft) (data : Octets) : IngestStep → Http.Request
  | create => (client.org.request .post (client.kindUrl .ingest)).withJson draft.encode
  | upload id => (client.org.request .put (client.resourceUrl .ingest id "batches")).withCsv data
  | close id =>
    (client.org.request .patch (client.jobUrl .ingest id)).withJson
      (Client.stateChange .uploadComplete)
  | abort id =>
    (client.org.request .patch (client.jobUrl .ingest id)).withJson (Client.stateChange .aborted)
  | look id => client.org.request .get (client.jobUrl .ingest id)
  | fetch artifact id =>
    (client.org.request .get (client.resourceUrl .ingest id artifact.path)).acceptingCsv

/-- What a step reads from a response: a job where one is shown, the table that the body parses to
for an artifact, and nothing behind an upload. -/
def read (delimiter : ColumnDelimiter) (response : Response) : IngestStep →
    Except Failure StepYield
  | upload _ => .ok .nothing
  | fetch _ _ => do
    let body ← response.streamBytes.mapError Failure.ofHttp
    (ResultBody.asSet delimiter body).map .table
  | _ => ((response.readJson IngestJob.decode).mapError Failure.ofHttp).map .job

end IngestStep

/-- A step, the delivery of its request if it could be built, and what was read from the answer. -/
structure IngestAct where
  step : IngestStep
  delivery : Option Delivery
  result : Except Failure StepYield

namespace IngestAct

/-- The messages of an act: that of its request, unless it could not be built or its host could not
be connected to, and those that redirects led to. -/
def messages (act : IngestAct) : List Message :=
  act.delivery.toList.flatMap (·.messages)

/-- Whether an act takes place between two states of the network: its request is answered as the act
says (`Http.Attempt`), and its result is what the step reads from the answer. -/
def Happens (client : Client) (draft : IngestDraft) (data : Octets) (traffic : Traffic)
    (act : IngestAct) (traffic' : Traffic) : Prop :=
  ∃ answer, Attempt client.org.http (act.step.request client draft data) traffic act.delivery
      answer traffic' ∧
    act.result = (answer.mapError Failure.ofHttp).bind
      fun response ↦ act.step.read draft.columnDelimiter response

/-- Whether the request of an act could be built, but its host not be connected to, so that nothing
was sent. -/
def IsUnreached (act : IngestAct) : Prop :=
  ∃ delivery, act.delivery = some delivery ∧ delivery.IsUnreached

/-- Whether the request of an act was answered with a reply of success, whatever was read from it
then. -/
def IsAccepted (act : IngestAct) : Prop :=
  ∃ delivery response, act.delivery = some delivery ∧ delivery.answer = .ok response

namespace Happens

variable {client : Client} {draft : IngestDraft} {data : Octets} {traffic traffic' : Traffic}
  {act : IngestAct}

/-- From one state of the network on, one act happens for a step. -/
theorem unique {other : IngestAct} {after : Traffic}
    (h : act.Happens client draft data traffic traffic')
    (hother : other.Happens client draft data traffic after) (hstep : act.step = other.step) :
    act = other ∧ traffic' = after := by
  obtain ⟨step, delivery, result⟩ := act
  obtain ⟨step', delivery', result'⟩ := other
  obtain rfl : step = step' := hstep
  obtain ⟨answer, hattempt, hread⟩ := h
  obtain ⟨answer', hattempt', hread'⟩ := hother
  obtain ⟨hdelivery, rfl, rfl⟩ := hattempt.unique hattempt'
  obtain rfl : delivery = delivery' := hdelivery
  obtain rfl : result = result' := hread.trans hread'.symm
  exact ⟨rfl, rfl⟩

/-- Something is read only from a response (`hresult`), and that takes one of the replies that are
to come; so no run reads more often than there are replies. -/
theorem of_ok {gained : StepYield} (h : act.Happens client draft data traffic traffic')
    (hresult : act.result = .ok gained) :
    (∃ delivery response, act.delivery = some delivery ∧ delivery.answer = .ok response ∧
        act.step.read draft.columnDelimiter response = .ok gained) ∧
      traffic'.replies.length < traffic.replies.length := by
  obtain ⟨answer, hattempt, hread⟩ := h
  rw [hresult] at hread
  cases answer with
  | error failure => cases hread
  | ok response =>
    obtain ⟨⟨delivery, hdelivery, hanswer⟩, hlength⟩ := hattempt.of_ok
    exact ⟨⟨delivery, response, hdelivery, hanswer, hread.symm⟩, hlength⟩

/-- A request that was delivered (`hdelivery`) was fit to be sent, nothing else happened, and the
result is what the step reads from what arrives. -/
theorem of_delivery {delivery : Delivery} (h : act.Happens client draft data traffic traffic')
    (hdelivery : act.delivery = some delivery) :
    (act.step.request client draft data).prepare client.org.http = .ok delivery.message ∧
      Http.Received traffic [delivery] traffic' ∧
      act.result = (delivery.answer.mapError Failure.ofHttp).bind
        fun response ↦ act.step.read draft.columnDelimiter response := by
  obtain ⟨answer, ⟨hanswered, hreceived⟩, hread⟩ := h
  rw [hdelivery] at hanswered hreceived
  cases hanswered with
  | delivered hprepare hfollowed => exact ⟨hprepare, hreceived, hread⟩

/-- A request that was not delivered (`hdelivery`) could not be built, and the act fails as building
it does. -/
theorem of_unbuilt (h : act.Happens client draft data traffic traffic')
    (hdelivery : act.delivery = none) :
    ∃ failure, (act.step.request client draft data).prepare client.org.http = .error failure ∧
      act.result = .error (.ofHttp failure) := by
  obtain ⟨answer, ⟨hanswered, -⟩, hread⟩ := h
  rw [hdelivery] at hanswered
  cases hanswered with
  | unfit hprepare => exact ⟨_, hprepare, hread⟩

/-- Nothing is sent for an act exactly where its request cannot be built or its host not be
connected to (`IsUnreached`). -/
theorem messages_eq_nil_iff (h : act.Happens client draft data traffic traffic') :
    act.messages = [] ↔ act.delivery = none ∨ act.IsUnreached := by
  cases hdelivery : act.delivery with
  | none => simp [messages, hdelivery]
  | some delivery =>
    obtain ⟨-, hreceived, -⟩ := h.of_delivery hdelivery
    obtain ⟨hfollowed, -⟩ := Http.Received.single_iff.mp hreceived
    have hall : act.messages = delivery.messages := by simp [messages, hdelivery]
    rw [hall, hfollowed.messages_eq_nil_iff]
    simp [IsUnreached, hdelivery]

/-- Where nothing is sent (`hunsent`), the act fails, and without a status, as no reply can have
brought one. -/
theorem error_of_unsent (h : act.Happens client draft data traffic traffic')
    (hunsent : act.messages = []) :
    ∃ failure, act.result = .error failure ∧ failure.status? = none := by
  rcases h.messages_eq_nil_iff.mp hunsent with hdelivery | ⟨delivery, hdelivery, -, hrefused⟩
  · obtain ⟨failure, hprepare, hfailed⟩ := h.of_unbuilt hdelivery
    exact ⟨_, hfailed,
      (Failure.status?_ofHttp failure).trans (Http.Request.status?_of_prepare hprepare)⟩
  · obtain ⟨-, -, hresult⟩ := h.of_delivery hdelivery
    obtain ⟨failure, hfailed, hstatus⟩ := delivery.answer_of_isRefused hrefused
    rw [hfailed] at hresult
    exact ⟨_, hresult, (Failure.status?_ofHttp failure).trans hstatus⟩

end Happens

end IngestAct

variable {client : Client} {draft : IngestDraft} {data : Octets}

/-- Whether acts take place one after another between two states of the network, and nothing else
does. This is the log of a run. -/
inductive Recorded (client : Client) (draft : IngestDraft) (data : Octets) :
    Traffic → List IngestAct → Traffic → Prop where
  | nil (traffic : Traffic) : Recorded client draft data traffic [] traffic
  | cons {traffic traffic' traffic'' : Traffic} {act : IngestAct} {acts : List IngestAct} :
      act.Happens client draft data traffic traffic' →
      Recorded client draft data traffic' acts traffic'' →
      Recorded client draft data traffic (act :: acts) traffic''

namespace Recorded

variable {traffic traffic' traffic'' : Traffic} {acts more : List IngestAct}

theorem single {act : IngestAct} (hact : act.Happens client draft data traffic traffic') :
    Recorded client draft data traffic [act] traffic' :=
  .cons hact (.nil traffic')

theorem append (hacts : Recorded client draft data traffic acts traffic')
    (hmore : Recorded client draft data traffic' more traffic'') :
    Recorded client draft data traffic (acts ++ more) traffic'' := by
  induction hacts with
  | nil traffic => exact hmore
  | cons hact hrest ih => exact .cons hact (ih hmore)

/-- Two logs from one state of the network on that begin with the same step (`hstep`) begin with the
same act, and go on from one state. -/
theorem cons_unique {act other : IngestAct}
    (h : Recorded client draft data traffic (act :: acts) traffic')
    (hother : Recorded client draft data traffic (other :: more) traffic'')
    (hstep : act.step = other.step) : act = other ∧ ∃ between,
      Recorded client draft data between acts traffic' ∧
        Recorded client draft data between more traffic'' := by
  cases h with
  | cons hact hrest =>
    cases hother with
    | cons hact' hrest' =>
      obtain ⟨rfl, rfl⟩ := hact.unique hact' hstep
      exact ⟨rfl, _, hrest, hrest'⟩

/-- The messages that were sent between the two states are those of the acts, in their order. -/
theorem sent_eq (hacts : Recorded client draft data traffic acts traffic') :
    traffic'.sent = traffic.sent ++ acts.flatMap (·.messages) := by
  induction hacts with
  | nil traffic => simp
  | cons hact hrest ih =>
    obtain ⟨answer, hattempt, -⟩ := hact
    rw [ih, hattempt.received.sent_eq, List.append_assoc, List.flatMap_cons, IngestAct.messages]

/-- Each of the acts takes place between some two states of the network on the way. -/
theorem happens (hacts : Recorded client draft data traffic acts traffic') {act : IngestAct}
    (hact : act ∈ acts) : ∃ before after, act.Happens client draft data before after := by
  induction hacts with
  | nil traffic => cases hact
  | cons hfirst hrest ih =>
    rcases List.mem_cons.mp hact with rfl | hact
    · exact ⟨_, _, hfirst⟩
    · exact ih hact

end Recorded

namespace Client

variable {β : Type} {step : IngestStep} {f : β → StepYield} {x : Session β}

/-- Whether a computation is one act: the request of a step, with `f` of its result read from the
answer. -/
def Performs (client : Client) (draft : IngestDraft) (data : Octets) (step : IngestStep)
    (f : β → StepYield) (x : Session β) : Prop :=
  ∀ traffic result traffic', x traffic = (result, traffic') → ∃ delivery,
    IngestAct.Happens client draft data traffic ⟨step, delivery, result.map f⟩ traffic'

/-- A computation that sends the request of a step (`hrun`) and reads the answer the way the step
does (`hread`) performs the step. -/
theorem performs_of_execute {read : Response → Except Failure β}
    (hrun : ∀ traffic, x traffic =
      (((Http.execute client.org.http (step.request client draft data) traffic).1.mapError
          Failure.ofHttp).bind read,
        (Http.execute client.org.http (step.request client draft data) traffic).2))
    (hread : ∀ response, step.read draft.columnDelimiter response = (read response).map f) :
    client.Performs draft data step f x := by
  intro traffic result traffic' hx
  rw [hrun] at hx
  cases hx
  obtain ⟨delivery, hattempt⟩ :=
    Http.execute_attempt client.org.http (step.request client draft data) traffic
  refine ⟨delivery, _, hattempt, ?_⟩
  cases (Http.execute client.org.http (step.request client draft data) traffic).1 with
  | error failure => rfl
  | ok response => exact (hread response).symm

theorem lift_apply {α : Type} (exchange : Http.Exchange Http.Failure α) (traffic : Traffic) :
    lift exchange traffic =
      ((exchange traffic).1.mapError Failure.ofHttp, (exchange traffic).2) :=
  rfl

/-- A request, and reading the answer without further traffic (`hnext`), is the request with its
answer read. -/
theorem lift_execute_bind {config : Http.Config} {next : Response → Session β}
    {read : Response → Except Failure β}
    (hnext : ∀ response traffic, next response traffic = (read response, traffic))
    (request : Http.Request) (traffic : Traffic) :
    (lift (Http.execute config request) >>= next) traffic =
      (((Http.execute config request traffic).1.mapError Failure.ofHttp).bind read,
        (Http.execute config request traffic).2) := by
  have hlift := lift_apply (Http.execute config request) traffic
  cases hrun : Http.execute config request traffic with
  | mk answer traffic' =>
    rw [hrun] at hlift
    cases answer with
    | error failure => exact Http.Exchange.bind_of_error hlift
    | ok response =>
      rw [Http.Exchange.bind_of_ok hlift]
      exact hnext response traffic'

/-- Reading JSON from the answer to a request, as a computation of the client: the failures of the
request and of the reading are both sorted for the jobs. -/
theorem lift_executeJson {config : Http.Config} {α : Type} (request : Http.Request)
    (decode : Json.Decoder α) (traffic : Traffic) :
    lift (Http.executeJson config decode request) traffic =
      (((Http.execute config request traffic).1.mapError Failure.ofHttp).bind
          fun response ↦ (response.readJson decode).mapError Failure.ofHttp,
        (Http.execute config request traffic).2) := by
  rw [lift_apply]
  unfold Http.executeJson
  cases hrun : Http.execute config request traffic with
  | mk answer traffic' =>
    cases answer with
    | error failure =>
      rw [Http.Exchange.bind_of_error hrun]
      rfl
    | ok response =>
      rw [Http.Exchange.bind_of_ok hrun]
      rfl

theorem performs_postJob (client : Client) (draft : IngestDraft) (data : Octets) :
    client.Performs draft data .create .job
      (lift (client.org.postJson IngestJob.decode (client.kindUrl .ingest) draft.encode)) :=
  performs_of_execute (fun traffic ↦ lift_executeJson _ _ traffic) fun _ ↦ rfl

theorem performs_closeJob (client : Client) (draft : IngestDraft) (data : Octets) (id : String) :
    client.Performs draft data (.close id) .job (client.closeJob id) :=
  performs_of_execute (fun traffic ↦ lift_executeJson _ _ traffic) fun _ ↦ rfl

theorem performs_requestAbort (client : Client) (draft : IngestDraft) (data : Octets)
    (id : String) :
    client.Performs draft data (.abort id) .job (requestAbort IngestJob client id) :=
  performs_of_execute (fun traffic ↦ lift_executeJson _ _ traffic) fun _ ↦ rfl

theorem performs_getJob (client : Client) (draft : IngestDraft) (data : Octets) (id : String) :
    client.Performs draft data (.look id) .job (getJob IngestJob client id) :=
  performs_of_execute (fun traffic ↦ lift_executeJson _ _ traffic) fun _ ↦ rfl

theorem performs_upload (client : Client) (draft : IngestDraft) (data : Octets) (id : String) :
    client.Performs draft data (.upload id) (fun _ ↦ .nothing) (client.upload id data) := by
  have hnext : ∀ (response : Response) traffic,
      (pure () : Session Unit) traffic = ((fun _ ↦ .ok ()) response, traffic) :=
    fun _ _ ↦ rfl
  exact performs_of_execute (fun traffic ↦ lift_execute_bind hnext _ traffic) fun _ ↦ rfl

theorem performs_fetchSet (client : Client) (draft : IngestDraft) (data : Octets)
    (artifact : Artifact) (id : String) :
    client.Performs draft data (.fetch artifact id) .table
      (client.fetchSet draft.columnDelimiter artifact id) := by
  have hnext : ∀ (response : Response) traffic,
      (lift (Http.Exchange.ofExcept response.streamBytes) >>= fun body ↦
        Http.Exchange.ofExcept (ResultBody.asSet draft.columnDelimiter body)) traffic =
          ((response.streamBytes.mapError Failure.ofHttp).bind
            (ResultBody.asSet draft.columnDelimiter), traffic) := by
    intro response traffic
    cases hbody : response.streamBytes <;> rfl
  have hread : ∀ response, (IngestStep.fetch artifact id).read draft.columnDelimiter response =
      ((response.streamBytes.mapError Failure.ofHttp).bind
        (ResultBody.asSet draft.columnDelimiter)).map .table := by
    intro response
    change (response.streamBytes.mapError Failure.ofHttp).bind _ = _
    cases response.streamBytes <;> rfl
  refine performs_of_execute (fun traffic ↦ ?_) hread
  unfold fetchSet fetchArtifact
  rw [bind_assoc]
  exact lift_execute_bind hnext _ traffic

end Client

end BulkJobs
