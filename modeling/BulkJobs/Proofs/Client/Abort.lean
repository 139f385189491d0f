import BulkJobs.Proofs.Client.Refusal
import BulkJobs.Proofs.Org.Plain

/-!
# Aborting a job

An abort is one request, and a look at the same job when the service refuses it for the state of the
job, with the status 400 or 409. Where the request for the abort can be built, so can the one for
the look (`exists_prepare_get`). What is read from a delivery is what the reply shows
(`Delivery.read_eq_ok_iff`), and a failure has the status of a refusal exactly when the reply brings
it (`Delivery.status?_read_iff`). So the abort succeeds when its own reply shows the job, or when it
was refused for the state of the job and the look shows the job aborted; any other abort fails for
the reason that the request for it failed, and never for that of the look (`abortJob_settles`). A
redirect is none of these answers: it is followed, so that the request for the abort may be sent
more than once (`abort_redirected`).
-/

set_option autoImplicit false
set_option relaxedAutoImplicit false

namespace BulkJobs

open JobSnapshot (kind state)
open Http (Delivery Message Received Reply Response Traffic)

namespace Http

/-- Headers that are fit (`h`) stay fit without those at the end, so a request can still be built
when it carries less. -/
theorem isSome_mapM_of_append {β γ : Type} {f : β → Option γ} {items more : List β}
    {values : List γ} (h : (items ++ more).mapM f = some values) : (items.mapM f).isSome := by
  rw [List.mapM_append] at h
  cases hitems : items.mapM f with
  | none =>
    rw [hitems] at h
    cases h
  | some _ => rfl

namespace Delivery

variable {β : Type} {decode : Json.Decoder β} {delivery : Delivery}

/-- What is read as JSON from the answer to a delivery: the value that the body holds, or the
failure of the request, of the body or of the decoder. -/
def read (decode : Json.Decoder β) (delivery : Delivery) : Except Failure β :=
  delivery.answer.bind fun response ↦ response.readJson decode

/-- Whether the last reply of a delivery arrives in full, is a success, and shows a value by its
body (`Reply.carriedBody`). -/
structure Shows (decode : Json.Decoder β) (delivery : Delivery) (value : β) : Prop where
  whole : delivery.reply.fault = none
  success : 200 ≤ delivery.reply.status ∧ delivery.reply.status ≤ 299
  decodes : Json.decodeText decode delivery.reply.carriedBody = .ok value

theorem read_eq_ok_iff {value : β} :
    delivery.read decode = .ok value ↔ delivery.Shows decode value := by
  constructor
  · intro hread
    cases hanswer : delivery.answer with
    | error failure =>
      rw [read, hanswer] at hread
      cases hread
    | ok response =>
      rw [read, hanswer] at hread
      obtain ⟨hunbroken, hdecode⟩ := decode_of_readJson hread
      obtain ⟨hsuccess, hfault, rfl⟩ := whole_of_answer hanswer hunbroken
      exact ⟨hfault, hsuccess, hdecode⟩
  · intro hshows
    rw [read, answer_of_success hshows.success hshows.whole]
    exact readJson_of_decode rfl hshows.decodes

theorem Shows.unique {value other : β} (hvalue : delivery.Shows decode value)
    (hother : delivery.Shows decode other) : value = other :=
  Except.ok.inj (hvalue.decodes.symm.trans hother.decodes)

/-- What is not read from a delivery fails with the status of a refusal exactly when the last reply
brings this status (`Delivery.Brings`). -/
theorem status?_read_iff {failure : Failure} (hread : delivery.read decode = .error failure)
    {status : Nat} (hrefused : ¬(200 ≤ status ∧ status ≤ 299)) :
    failure.status? = some status ↔ delivery.Brings status := by
  constructor
  · intro hstatus
    cases hanswer : delivery.answer with
    | error own =>
      rw [read, hanswer] at hread
      cases hread
      exact brings_of_answer hanswer hstatus
    | ok response =>
      rw [read, hanswer] at hread
      rw [Client.status?_of_readJson hread] at hstatus
      cases hstatus
  · intro hbrings
    obtain ⟨own, hanswer, hstatus⟩ := answer_of_brings hbrings hrefused
    rw [read, hanswer] at hread
    cases hread
    exact hstatus

/-- Whether the service refuses a request for the state of the job: it answers with the status 400
or 409, whatever else the reply brings. -/
def IsRefused (delivery : Delivery) : Prop :=
  delivery.Brings 400 ∨ delivery.Brings 409

/-- Nothing is read from a refusal, whatever decoder it is read with. -/
theorem IsRefused.read_eq (h : delivery.IsRefused) (decode : Json.Decoder β) :
    ∃ failure, delivery.read decode = .error failure := by
  have hfails : ∀ status, delivery.Brings status → ¬(200 ≤ status ∧ status ≤ 299) →
      ∃ failure, delivery.read decode = .error failure := by
    intro status hbrings hrefused
    obtain ⟨failure, hanswer, -⟩ := answer_of_brings hbrings hrefused
    exact ⟨failure, by rw [read, hanswer]; rfl⟩
  rcases h with hbrings | hbrings
  · exact hfails 400 hbrings (by decide)
  · exact hfails 409 hbrings (by decide)

end Delivery

end Http

/-- Where a request with JSON for a path can be built (`hprepare`), so can one for what is there, as
it has no header more, and it goes to the same URL. -/
theorem Org.exists_prepare_get {org : Org} {method : Http.Method} {path : String} {body : Json}
    {config : Http.Config} {message : Message}
    (hprepare : ((org.request method path).withJson body).prepare config = .ok message) :
    ∃ look, (org.request .get path).prepare config = .ok look ∧ look.method = .get ∧
      look.url = message.url := by
  obtain ⟨written, own, hparse, hhost, hown, hweb, hfits, rfl⟩ :=
    Http.Request.prepare_eq_ok_iff.mp hprepare
  have hheaders : ((org.request .get path).ownHeaders?
      (Http.Request.urlCredentials? written)).isSome := by
    unfold Http.Request.ownHeaders? at hown ⊢
    change Option.isSome (List.mapM _ (_ ++ [])) = true
    rw [List.append_nil]
    exact Http.isSome_mapM_of_append hown
  obtain ⟨fewer, hfewer⟩ := Option.isSome_iff_exists.mp hheaders
  exact ⟨_, Http.Request.prepare_eq_ok_iff.mpr ⟨written, fewer, hparse, hhost, hfewer, hweb, hfits,
    rfl⟩, rfl, rfl⟩

namespace Client

/-! ### One request -/

section Request

variable {β : Type} {decode : Json.Decoder β} {config : Http.Config} {request : Http.Request}
  {message : Message}

/-- A request with JSON that can be built (`hprepare`) is delivered, and nothing else is; its result
is what is read from the delivery, with the failure sorted for the jobs. -/
theorem lift_executeJson_delivers (hprepare : request.prepare config = .ok message)
    (traffic : Traffic) : ∃ delivery traffic',
      delivery.message = message ∧ Received traffic [delivery] traffic' ∧
        lift (Http.executeJson config decode request) traffic =
          ((delivery.read decode).mapError Failure.ofHttp, traffic') := by
  obtain ⟨delivery, traffic', hmessage, hreceived, hrun⟩ :=
    Http.execute_delivers hprepare traffic
  refine ⟨delivery, traffic', hmessage, hreceived, ?_⟩
  rw [lift_executeJson, hrun, Delivery.read]
  cases delivery.answer <;> rfl

end Request

/-! ### The parts of an abort -/

section Parts

variable {α : Type} [JobSnapshot α] {client : Client} {id : String}
  {traffic between after : Traffic} {failure : Failure}

/-- The request for a job to be aborted, with the state change as its body. -/
def abortRequest (client : Client) (family : JobKind) (id : String) : Http.Request :=
  (client.org.request .patch (client.jobUrl family id)).withJson (stateChange .aborted)

/-- What an abort that was refused comes to, from what was seen of the job then: the job, if it is
seen to be aborted, and otherwise the refusal itself. -/
def afterRefusal (failure : Failure) : Except Failure α → Except Failure α
  | .ok current => if state current == .aborted then .ok current else .error failure
  | .error _ => .error failure

theorem afterRefusal_eq_ok_iff {seen : Except Failure α} {job : α} :
    afterRefusal failure seen = .ok job ↔ seen = .ok job ∧ state job = .aborted := by
  cases seen with
  | error own => simp [afterRefusal]
  | ok current =>
    by_cases hstate : state current = .aborted
    · simp only [afterRefusal, hstate, beq_self_eq_true, if_true, Except.ok.injEq]
      exact ⟨fun h ↦ ⟨h, h ▸ hstate⟩, fun h ↦ h.1⟩
    · simp only [afterRefusal, beq_iff_eq, if_neg hstate, Except.ok.injEq, reduceCtorEq, false_iff]
      rintro ⟨rfl, haborted⟩
      exact hstate haborted

theorem eq_of_afterRefusal {seen : Except Failure α} {own : Failure}
    (h : afterRefusal failure seen = .error own) : own = failure := by
  unfold afterRefusal at h
  split at h
  · split_ifs at h
    exact (Except.error.inj h).symm
  · exact (Except.error.inj h).symm

theorem abortJob_of_ok {job : α} (hask : requestAbort α client id traffic = (.ok job, between)) :
    abortJob α client id traffic = (.ok job, between) := by
  unfold abortJob
  rw [Http.Exchange.bind_of_ok (Http.Exchange.attempt_of_run hask)]
  rfl

theorem abortJob_of_error (hask : requestAbort α client id traffic = (.error failure, between))
    (hother : ¬(failure.status? = some 400 ∨ failure.status? = some 409)) :
    abortJob α client id traffic = (.error failure, between) := by
  unfold abortJob
  rw [Http.Exchange.bind_of_ok (Http.Exchange.attempt_of_run hask)]
  simp only
  rw [if_neg (by simpa using hother)]
  rfl

theorem abortJob_of_refused (hask : requestAbort α client id traffic = (.error failure, between))
    (hrefused : failure.status? = some 400 ∨ failure.status? = some 409) {seen : Except Failure α}
    (hlook : getJob α client id between = (seen, after)) :
    abortJob α client id traffic = (afterRefusal failure seen, after) := by
  unfold abortJob
  rw [Http.Exchange.bind_of_ok (Http.Exchange.attempt_of_run hask)]
  simp only
  rw [if_pos (by simpa using hrefused),
    Http.Exchange.bind_of_ok (Http.Exchange.attempt_of_run hlook)]
  cases seen with
  | error own => rfl
  | ok current =>
    simp only [afterRefusal]
    split_ifs <;> rfl

/-- An abort fails for the reason that the request for it fails (`requestAbort`), whatever a look at
the job comes to; so the refusal is never hidden. -/
theorem requestAbort_of_error (hrun : abortJob α client id traffic = (.error failure, after)) :
    (requestAbort α client id traffic).1 = .error failure := by
  cases hask : requestAbort α client id traffic with
  | mk answer between =>
    cases answer with
    | ok job =>
      rw [abortJob_of_ok hask] at hrun
      cases hrun
    | error own =>
      by_cases hrefused : own.status? = some 400 ∨ own.status? = some 409
      · cases hlook : getJob α client id between with
        | mk seen later =>
          rw [abortJob_of_refused hask hrefused hlook] at hrun
          rw [eq_of_afterRefusal (Prod.mk.inj hrun).1]
      · rw [abortJob_of_error hask hrefused] at hrun
        exact (Prod.mk.inj hrun).1

/-- Which failures of the request for an abort make the abort look at the job: those with the status
400 or 409, and these the request has just when it is refused for the state of the job. -/
theorem status?_ofHttp_iff {β : Type} {decode : Json.Decoder β} {first : Delivery}
    {problem : Http.Failure} (hread : first.read decode = .error problem) :
    ((Failure.ofHttp problem).status? = some 400 ∨ (Failure.ofHttp problem).status? = some 409) ↔
      first.IsRefused := by
  rw [Failure.status?_ofHttp, Delivery.status?_read_iff hread (by decide),
    Delivery.status?_read_iff hread (by decide)]
  rfl

end Parts

end Client

/-! ### The abort -/

open Client (abortJob requestAbort)

/-- What an abort does and what it comes to, when the request for it is delivered as `first` and
`more` is delivered after that: only if the request is refused for the state of the job, the job is
looked at. Without replies that lead elsewhere, nothing but these messages is sent. -/
structure AbortRun (α : Type) [JobSnapshot α] (patch look : Message) (traffic traffic' : Traffic)
    (result : Except Failure α) (first : Delivery) (more : List Delivery) : Prop where
  account : Received traffic (first :: more) traffic'
  asked : first.message = patch
  of_error : ∀ failure, result = .error failure →
    ∃ problem, first.read (JobSnapshot.decode (α := α)) = .error problem ∧
      failure = .ofHttp problem
  unrefused : ¬first.IsRefused →
    more = [] ∧ ∀ job, result = .ok job ↔ first.Shows JobSnapshot.decode job
  refused : first.IsRefused → ∃ second : Delivery, more = [second] ∧ second.message = look ∧
    ∀ job, result = .ok job ↔ second.Shows JobSnapshot.decode job ∧ state job = .aborted

section Run

variable {α : Type} [JobSnapshot α] {client : Client} {id : String} {patch look : Message}
  {traffic between : Traffic} {first : Delivery}

theorem abortRun_of_unrefused (hfirst : first.message = patch) (hrefused : ¬first.IsRefused)
    (hreceived : Received traffic [first] between)
    (hask : requestAbort α client id traffic =
      ((first.read JobSnapshot.decode).mapError Failure.ofHttp, between)) :
    AbortRun α patch look traffic (abortJob α client id traffic).2
      (abortJob α client id traffic).1 first [] := by
  have hrun : abortJob α client id traffic =
      ((first.read JobSnapshot.decode).mapError Failure.ofHttp, between) := by
    cases hread : first.read (JobSnapshot.decode (α := α)) with
    | ok job =>
      rw [hread] at hask
      exact Client.abortJob_of_ok hask
    | error problem =>
      rw [hread] at hask
      exact Client.abortJob_of_error hask (mt (Client.status?_ofHttp_iff hread).mp hrefused)
  rw [hrun]
  refine ⟨hreceived, hfirst, fun _ ↦ exists_of_mapError, fun _ ↦ ⟨rfl, fun job ↦ ?_⟩,
    fun h ↦ absurd h hrefused⟩
  rw [mapError_eq_ok_iff, Delivery.read_eq_ok_iff]

theorem abortRun_of_refused (hfirst : first.message = patch) (hrefused : first.IsRefused)
    (hreceived : Received traffic [first] between)
    (hask : requestAbort α client id traffic =
      ((first.read JobSnapshot.decode).mapError Failure.ofHttp, between))
    {second : Delivery} {after : Traffic} (hsecond : second.message = look)
    (hlater : Received between [second] after)
    (hlook : Client.getJob α client id between =
      ((second.read JobSnapshot.decode).mapError Failure.ofHttp, after)) :
    AbortRun α patch look traffic (abortJob α client id traffic).2
      (abortJob α client id traffic).1 first [second] := by
  obtain ⟨problem, hread⟩ := hrefused.read_eq (JobSnapshot.decode (α := α))
  rw [hread] at hask
  rw [Client.abortJob_of_refused hask ((Client.status?_ofHttp_iff hread).mpr hrefused) hlook]
  refine ⟨hreceived.append hlater, hfirst, fun _ hfailure ↦
    ⟨problem, hread, Client.eq_of_afterRefusal hfailure⟩, absurd hrefused,
    fun _ ↦ ⟨second, rfl, hsecond, fun job ↦ ?_⟩⟩
  rw [Client.afterRefusal_eq_ok_iff, mapError_eq_ok_iff, Delivery.read_eq_ok_iff]

end Run

/-- Where the request for an abort can be built, the abort is that request, and a look at the same
job exactly when the service refused it for the state of the job. It succeeds with the job that the
reply shows, or with the one that the look shows to be aborted; any other abort fails as the request
for it did. What is sent are the two messages, as far as their hosts can be connected to, and what
redirects led to. -/
theorem abortJob_settles (α : Type) [JobSnapshot α] (client : Client) (id : String)
    {patch : Message}
    (hpatch : (client.abortRequest (kind α) id).prepare client.org.http = .ok patch) :
    ∃ look : Message,
      (client.org.request .get (client.jobUrl (kind α) id)).prepare client.org.http = .ok look ∧
      patch.method = .patch ∧ look.method = .get ∧ look.url = patch.url ∧
      ∀ traffic result traffic', abortJob α client id traffic = (result, traffic') →
        (∀ failure, result = .error failure →
          (requestAbort α client id traffic).1 = .error failure) ∧
        ∃ first more, AbortRun α patch look traffic traffic' result first more ∧
          traffic'.sent = traffic.sent ++ (first :: more).flatMap (·.messages) ∧
          ((∀ reply ∈ traffic.replies, reply.isFinal = true) → ∀ delivery ∈ first :: more,
            delivery.messages = if delivery.reply.isRefused then [] else [delivery.message]) := by
  obtain ⟨look, hlook, hget, hurl⟩ := Org.exists_prepare_get hpatch
  refine ⟨look, hlook, Http.Request.method_of_prepare hpatch, hget, hurl, ?_⟩
  intro traffic result traffic' hrun
  refine ⟨fun failure hfailure ↦ Client.requestAbort_of_error (hfailure ▸ hrun), ?_⟩
  obtain ⟨first, between, hfirst, hreceived, hask⟩ : ∃ first between,
      first.message = patch ∧ Received traffic [first] between ∧
      requestAbort α client id traffic =
        ((first.read JobSnapshot.decode).mapError Failure.ofHttp, between) :=
    Client.lift_executeJson_delivers hpatch traffic
  obtain ⟨second, after, hsecond, hlater, hseen⟩ : ∃ second after,
      second.message = look ∧ Received between [second] after ∧
      Client.getJob α client id between =
        ((second.read JobSnapshot.decode).mapError Failure.ofHttp, after) :=
    Client.lift_executeJson_delivers hlook between
  have habort : ∃ more, AbortRun α patch look traffic (abortJob α client id traffic).2
      (abortJob α client id traffic).1 first more := by
    by_cases hrefused : first.IsRefused
    · exact ⟨_, abortRun_of_refused hfirst hrefused hreceived hask hsecond hlater hseen⟩
    · exact ⟨_, abortRun_of_unrefused hfirst hrefused hreceived hask⟩
  obtain ⟨more, habort⟩ := habort
  rw [hrun] at habort
  exact ⟨first, more, habort, habort.account.sent_eq, habort.account.messages_eq⟩

def abortedReply : Reply :=
  { body := Utf8.encode
      "\x7b\"id\":\"1\",\"state\":\"Aborted\",\"object\":\"Account\",\"operation\":\"insert\"\x7d" }

theorem abortJob_settles_aborted : ∃ patch look job,
    (({ org := Org.sample } : Client).abortRequest .ingest "1").prepare Org.sample.http =
        .ok patch ∧
      look.method = .get ∧ look.url = patch.url ∧ job.state = .aborted ∧
      abortJob IngestJob { org := Org.sample } "1"
          { replies := [{ status := 409 }, abortedReply] } =
        (.ok job, { replies := [], sent := [patch, look] }) := by
  have hbuilt : ((({ org := Org.sample } : Client).abortRequest .ingest "1").prepare
      Org.sample.http).toOption.isSome := by
    decide +kernel
  have hsome : (Json.decodeText IngestJob.decode abortedReply.carriedBody).toOption.map (·.state) =
      some .aborted := by
    decide +kernel
  obtain ⟨patch, hpatch⟩ : ∃ patch,
      (({ org := Org.sample } : Client).abortRequest .ingest "1").prepare Org.sample.http =
        .ok patch := by
    generalize (({ org := Org.sample } : Client).abortRequest .ingest "1").prepare
      Org.sample.http = prepared at hbuilt ⊢
    cases prepared with
    | error problem => cases hbuilt
    | ok patch => exact ⟨patch, rfl⟩
  obtain ⟨look, -, -, hget, hurl, hsettles⟩ :=
    abortJob_settles IngestJob { org := Org.sample } "1" hpatch
  cases hrun : abortJob IngestJob { org := Org.sample } "1"
      { replies := [{ status := 409 }, abortedReply] } with
  | mk result traffic' =>
    obtain ⟨-, first, more, hrunning, hsent, hdirect⟩ := hsettles _ _ _ hrun
    obtain ⟨hfirst, hmore⟩ := hrunning.account.of_reply rfl rfl
    have hrefused : first.IsRefused := by
      rw [hfirst]
      exact .inr (Delivery.brings_of_isFinal rfl rfl)
    obtain ⟨second, rfl, hsecond, hjob⟩ := hrunning.refused hrefused
    obtain ⟨hlast, hend⟩ := hmore.of_reply rfl rfl
    generalize hread : Json.decodeText IngestJob.decode abortedReply.carriedBody = decoded at hsome
    cases decoded with
    | error problem => cases hsome
    | ok job =>
      have hstate : job.state = .aborted := Option.some.inj hsome
      have hshows : second.Shows JobSnapshot.decode job := by
        constructor
        · rw [hlast]
          rfl
        · rw [hlast]
          exact (by decide : 200 ≤ abortedReply.status ∧ abortedReply.status ≤ 299)
        · rw [hlast]
          exact hread
      obtain rfl : result = .ok job := (hjob job).mpr ⟨hshows, hstate⟩
      have hmessages : first.messages = [patch] ∧ second.messages = [look] := by
        rw [← hrunning.asked, ← hsecond, hfirst, hlast]
        exact ⟨rfl, rfl⟩
      rw [hend.eq_of_nil, hmessages.1, hmessages.2]
      exact ⟨patch, look, job, hpatch, hget, hurl, hstate, rfl⟩

/-- A request for an abort that is answered with a redirect is sent a second time, to another URL;
and the abort succeeds with the reply to that. -/
theorem abort_redirected :
    ((abortJob IngestJob { org := Org.sample } "1"
        { replies := [{ status := 307, headers := [⟨"location", "/x"⟩] },
            abortedReply] }).1.isOk = true) ∧
      (abortJob IngestJob { org := Org.sample } "1"
        { replies := [{ status := 307, headers := [⟨"location", "/x"⟩] },
            abortedReply] }).2.sent.map (fun message ↦ (message.method, message.url.write)) =
        [(.patch, "http://[::1]/services/data/v62.0/jobs/ingest/1"),
          (.patch, "http://[::1]/x")] := by
  decide +kernel

end BulkJobs
