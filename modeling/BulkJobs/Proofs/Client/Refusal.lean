import BulkJobs.Client.Query
import BulkJobs.Proofs.Client.IngestAct
import BulkJobs.Proofs.Http.Receiving

/-!
# One request of a client

A failure of an operation is backed when a reply that was received has brought its status
(`Failure.IsBacked`). An operation that is one request (`Asks`) has the message of that request
delivered, if the request can be built, and nothing else; it fails when the reply to it is a
refusal, with the failure that the refusal amounts to; and all its failures are backed
(`Asks.account`). Operations are of this kind when they check something before a request
(`Asks.behind`) or read something from its result (`Asks.bind`).
-/

set_option autoImplicit false
set_option relaxedAutoImplicit false

namespace BulkJobs

open Http (Delivery Exchange Received Response Traffic)

/-! ### Failures that replies back -/

namespace Failure

/-- Whether the status of a failure, if it has one, was brought by one of the replies that were
received. -/
def IsBacked (failure : Failure) (received : List Delivery) : Prop :=
  ∀ status, failure.status? = some status → ∃ delivery ∈ received, delivery.Brings status

theorem IsBacked.of_status? {failure : Failure} (hstatus : failure.status? = none)
    (received : List Delivery) : failure.IsBacked received := by
  intro status hsome
  rw [hstatus] at hsome
  cases hsome

theorem IsBacked.mono {failure : Failure} {received later : List Delivery}
    (h : failure.IsBacked received) (hlater : received ⊆ later) : failure.IsBacked later := by
  intro status hstatus
  obtain ⟨delivery, hmem, hbrings⟩ := h status hstatus
  exact ⟨delivery, hlater hmem, hbrings⟩

end Failure

namespace Client

variable {β γ : Type} {client : Client} {x : Session β}

/-! ### Operations that are one request -/

section Asks

/-- Whether a computation is a certain request, from whose answer it reads the result; or, without a
request, it fails before that. What is found here has no status. -/
inductive Asks (client : Client) : Option Http.Request → Session β → Prop where
  | unasked {x : Session β} {failure : Failure} : failure.status? = none →
      (∀ traffic, x traffic = (.error failure, traffic)) → Asks client none x
  | asked {x : Session β} (request : Http.Request) {read : Response → Except Failure β} :
      (∀ response failure, read response = .error failure → failure.status? = none) →
      (∀ traffic, x traffic =
        (((Http.execute client.org.http request traffic).1.mapError Failure.ofHttp).bind read,
          (Http.execute client.org.http request traffic).2)) → Asks client (some request) x

/-- The message that a request becomes, if there is a request and it can be built: what is delivered
for it. -/
def messageOf? (client : Client) (asked : Option Http.Request) : Option Http.Message :=
  asked.bind fun request ↦ (request.prepare client.org.http).toOption

/-- What one request is answered: a refusal is the failure of the operation, and sorted by its
status, and a failure with a status is a refusal. -/
theorem Asks.account {asked : Option Http.Request} (hx : client.Asks asked x) (traffic : Traffic) :
    ∃ received, Received traffic received (x traffic).2 ∧
      received.map (·.message) = (client.messageOf? asked).toList ∧
      (∀ failure, (x traffic).1 = .error failure → failure.IsBacked received) ∧
      ∀ delivery ∈ received, ∀ status, delivery.Brings status →
        ¬(200 ≤ status ∧ status ≤ 299) → ∃ failure, (x traffic).1 = .error (.ofHttp failure) ∧
          failure.status? = some status ∧ (Failure.ofHttp failure).Refuses status := by
  cases hx with
  | @unasked _ failure hstatus hrun =>
    rw [hrun]
    refine ⟨[], .nil traffic, rfl, ?_, by simp⟩
    intro other hother
    cases hother
    exact .of_status? hstatus []
  | @asked _ request read hread hrun =>
    rw [hrun]
    rcases Http.execute_cases client.org.http request traffic with
      ⟨failure, hstatus, hprepare, hunsent⟩ | ⟨delivery, traffic', hprepare, hreceived, hanswer⟩
    · rw [hunsent]
      refine ⟨[], .nil traffic, ?_, ?_, by simp⟩
      · rw [messageOf?, Option.bind_some, hprepare]
        rfl
      · intro other hother
        cases hother
        exact .of_status? ((Failure.status?_ofHttp failure).trans hstatus) []
    · rw [hanswer]
      refine ⟨[delivery], hreceived, ?_, ?_, ?_⟩
      · rw [messageOf?, Option.bind_some, hprepare]
        rfl
      · intro failure hfailure
        cases hresponse : delivery.answer with
        | ok response =>
          rw [hresponse] at hfailure
          exact .of_status? (hread response failure hfailure) _
        | error refused =>
          rw [hresponse] at hfailure
          cases hfailure
          intro status hstatus
          rw [Failure.status?_ofHttp] at hstatus
          exact ⟨delivery, List.mem_singleton_self delivery,
            Delivery.brings_of_answer hresponse hstatus⟩
      · intro other hother status hbrings hrefused
        obtain rfl := List.mem_singleton.mp hother
        obtain ⟨failure, hfailure, hstatus⟩ := Delivery.answer_of_brings hbrings hrefused
        rw [hfailure]
        exact ⟨failure, rfl, hstatus, Failure.refuses_ofHttp hstatus⟩

/-- A check before a request, whose failures have no status (`hresult`): without passing it there is
no request, and nothing is delivered. -/
theorem Asks.behind {asked : Option Http.Request} {result : Except Failure Unit}
    (hresult : ∀ failure, result = .error failure → failure.status? = none)
    (hx : client.Asks asked x) :
    client.Asks (result.toOption.bind fun _ ↦ asked) (Exchange.ofExcept result >>= fun _ ↦ x) := by
  cases hcheck : result with
  | error failure =>
    exact .unasked (hresult failure hcheck) (Exchange.ofExcept_bind_of_error rfl)
  | ok _ =>
    have hrun : ∀ traffic, (Exchange.ofExcept (Except.ok ()) >>= fun _ ↦ x : Session β) traffic =
        x traffic := Exchange.ofExcept_bind_of_ok rfl
    cases hx with
    | unasked hstatus hx => exact .unasked hstatus fun traffic ↦ (hrun traffic).trans (hx traffic)
    | asked request hread hx =>
      exact .asked request hread fun traffic ↦ (hrun traffic).trans (hx traffic)

/-- Reading something from the result of a request, without further traffic (`hnext`), keeps the
computation the same request. -/
theorem Asks.bind {asked : Option Http.Request} {next : β → Session γ}
    {reread : β → Except Failure γ} (hx : client.Asks asked x)
    (hnext : ∀ value traffic, next value traffic = (reread value, traffic))
    (hreread : ∀ value failure, reread value = .error failure → failure.status? = none) :
    client.Asks asked (x >>= next) := by
  cases hx with
  | unasked hstatus hx => exact .unasked hstatus fun traffic ↦ Exchange.bind_of_error (hx traffic)
  | @asked _ request read hread hx =>
    have hboth : ∀ response failure, (read response).bind reread = .error failure →
        failure.status? = none :=
      fun response ↦ error_of_bind (hread response) hreread
    refine .asked request hboth fun traffic ↦ ?_
    have hrun := hx traffic
    cases hanswer : Http.execute client.org.http request traffic with
    | mk answer traffic' =>
      rw [hanswer] at hrun
      cases answer with
      | error failure => exact Exchange.bind_of_error hrun
      | ok response =>
        change x traffic = (read response, traffic') at hrun
        cases hvalue : read response with
        | error failure =>
          rw [hvalue] at hrun
          rw [Exchange.bind_of_error hrun]
          change _ = ((read response).bind reread, traffic')
          rw [hvalue]
          rfl
        | ok value =>
          rw [hvalue] at hrun
          rw [Exchange.bind_of_ok hrun, hnext]
          change _ = ((read response).bind reread, traffic')
          rw [hvalue]
          rfl

theorem status?_of_ok {value : β} {failure : Failure}
    (hfailure : (Except.ok value : Except Failure β) = .error failure) :
    failure.status? = none := by
  cases hfailure

theorem asks_execute (request : Http.Request) :
    client.Asks (some request) (lift (Http.execute client.org.http request)) := by
  refine .asked request (fun response _ ↦ @status?_of_ok _ response _) fun traffic ↦ ?_
  rw [lift_apply]
  cases (Http.execute client.org.http request traffic).1 <;> rfl

theorem lift_bind (exchange : Exchange Http.Failure β) (next : β → Exchange Http.Failure γ) :
    lift (exchange >>= next) = lift exchange >>= fun value ↦ lift (next value) := by
  funext traffic
  cases hrun : exchange traffic with
  | mk result traffic' =>
    have hlift := lift_apply exchange traffic
    rw [lift_apply]
    rw [hrun] at hlift
    cases result with
    | error failure => rw [Exchange.bind_of_error hrun, Exchange.bind_of_error hlift]; rfl
    | ok value => rw [Exchange.bind_of_ok hrun, Exchange.bind_of_ok hlift]; rfl

/-! What is found in a body has no status. -/

theorem status?_of_readBytes {response : Response} {failure : Http.Failure}
    (hread : response.readBytes = .error failure) : failure.status? = none := by
  unfold Response.readBytes at hread
  split_ifs at hread
  cases hread
  rfl

theorem status?_of_streamBytes {response : Response} {failure : Http.Failure}
    (hread : response.streamBytes = .error failure) : failure.status? = none := by
  unfold Response.streamBytes at hread
  split_ifs at hread
  cases hread
  rfl

theorem status?_of_readText {response : Response} {failure : Http.Failure}
    (hread : response.readText = .error failure) : failure.status? = none :=
  error_of_map (fun _ ↦ status?_of_readBytes) failure hread

theorem status?_of_readJson {decode : Json.Decoder β} {response : Response} {failure : Http.Failure}
    (hread : response.readJson decode = .error failure) : failure.status? = none := by
  refine error_of_bind (fun _ ↦ status?_of_readBytes) ?_ failure hread
  intro source problem hproblem
  split at hproblem <;> cases hproblem
  rfl

theorem status?_of_mapError {result : Except Http.Failure β} {failure : Failure}
    (hresult : ∀ problem, result = .error problem → problem.status? = none)
    (hfailure : result.mapError Failure.ofHttp = .error failure) : failure.status? = none := by
  cases hproblem : result with
  | ok value =>
    rw [hproblem] at hfailure
    cases hfailure
  | error problem =>
    rw [hproblem] at hfailure
    cases hfailure
    exact (Failure.status?_ofHttp problem).trans (hresult problem hproblem)

theorem asks_executeJson (request : Http.Request) (decode : Json.Decoder β) :
    client.Asks (some request) (lift (Http.executeJson client.org.http decode request)) := by
  unfold Http.executeJson
  rw [lift_bind]
  exact (asks_execute request).bind (fun _ _ ↦ rfl)
    fun _ _ hread ↦ status?_of_mapError (fun _ ↦ status?_of_readJson) hread

theorem asks_getJson (client : Client) (decode : Json.Decoder β) (path : String) :
    client.Asks (some (client.org.request .get path)) (lift (client.org.getJson decode path)) :=
  asks_executeJson _ decode

theorem asks_postJson (client : Client) (decode : Json.Decoder β) (path : String) (body : Json) :
    client.Asks (some ((client.org.request .post path).withJson body))
      (lift (client.org.postJson decode path body)) :=
  asks_executeJson _ decode

theorem asks_patchJson (client : Client) (decode : Json.Decoder β) (path : String) (body : Json) :
    client.Asks (some ((client.org.request .patch path).withJson body))
      (lift (client.org.patchJson decode path body)) :=
  asks_executeJson _ decode

theorem asks_delete (client : Client) (path : String) :
    client.Asks (some (client.org.request .delete path)) (lift (client.org.delete path)) := by
  unfold Org.delete
  rw [lift_bind]
  exact (asks_execute _).bind (fun _ _ ↦ rfl) fun _ _ ↦ @status?_of_ok _ () _

theorem asks_getJob {α : Type} [JobSnapshot α] (client : Client) (id : String) :
    client.Asks (some (client.org.request .get (client.jobUrl (JobSnapshot.kind α) id)))
      (getJob α client id) :=
  asks_getJson client _ _

theorem asks_createIngestJob (client : Client) (draft : IngestDraft) :
    client.Asks (draft.validate.toOption.bind fun _ ↦
        some ((client.org.request .post (client.kindUrl .ingest)).withJson draft.encode))
      (client.createIngestJob draft) := by
  refine (asks_postJson client _ _ _).behind ?_
  intro failure hfailure
  unfold IngestDraft.validate at hfailure
  split at hfailure <;> cases hfailure
  rfl

theorem asks_createQueryJob (client : Client) (draft : QueryDraft) :
    client.Asks (draft.validate.toOption.bind fun _ ↦
        some ((client.org.request .post (client.kindUrl .query)).withJson draft.encode))
      (client.createQueryJob draft) := by
  refine (asks_postJson client _ _ _).behind ?_
  intro failure hfailure
  unfold QueryDraft.validate at hfailure
  split at hfailure <;> cases hfailure
  rfl

theorem asks_closeJob (client : Client) (id : String) :
    client.Asks (some ((client.org.request .patch (client.jobUrl .ingest id)).withJson
      (stateChange .uploadComplete))) (client.closeJob id) :=
  asks_patchJson client _ _ _

theorem asks_upload (client : Client) (id : String) (data : Octets) :
    client.Asks
      (some ((client.org.request .put (client.resourceUrl .ingest id "batches")).withCsv data))
      (client.upload id data) :=
  (asks_execute _).bind (fun _ _ ↦ rfl) fun _ _ ↦ @status?_of_ok _ () _

theorem asks_fetchArtifact (client : Client) (artifact : Artifact) (id : String) :
    client.Asks
      (some (client.org.request .get (client.resourceUrl .ingest id artifact.path)).acceptingCsv)
      (client.fetchArtifact artifact id) :=
  (asks_execute _).bind (fun _ _ ↦ rfl)
    fun _ _ hread ↦ status?_of_mapError (fun _ ↦ status?_of_streamBytes) hread

theorem asks_fetchSet (client : Client) (delimiter : ColumnDelimiter) (artifact : Artifact)
    (id : String) :
    client.Asks
      (some (client.org.request .get (client.resourceUrl .ingest id artifact.path)).acceptingCsv)
      (client.fetchSet delimiter artifact id) := by
  refine (asks_fetchArtifact client artifact id).bind (fun _ _ ↦ rfl) ?_
  intro body failure hfailure
  unfold ResultBody.asSet at hfailure
  cases hset : ResultSet.parse body delimiter with
  | ok set =>
    rw [hset] at hfailure
    cases hfailure
  | error problem =>
    rw [hset] at hfailure
    cases hfailure
    rfl

theorem asks_queryResults (client : Client) (id : String) (locator : Option String)
    (limit : Option Nat) : client.Asks (some (client.pageRequest id locator limit))
      (client.queryResults id locator limit) := by
  have hnext : ∀ (response : Response) traffic,
      (lift (Exchange.ofExcept response.readText) >>= fun csv ↦
        pure { csv, locator := response.locator? } : Session ResultPage) traffic =
          ((response.readText.map (ResultPage.mk · response.locator?)).mapError Failure.ofHttp,
            traffic) := by
    intro response traffic
    cases response.readText <;> rfl
  exact (asks_execute _).bind hnext fun _ _ hread ↦
    status?_of_mapError (error_of_map fun _ ↦ status?_of_readText) hread

end Asks

end Client

end BulkJobs
