import BulkJobs.Proofs.Client.Call
import BulkJobs.Proofs.Client.Refusal
import BulkJobs.Proofs.Client.Watching
import BulkJobs.Proofs.Org.Plain

/-!
# Where the statuses of failures come from

Operations of several requests may keep a failure as a value and fail with it later. So `Backs` says
of a computation that comes after some deliveries that its failures are backed by these and its own,
and also what becomes of the failures among its values. It is carried through the ways to build
computations, and through the loops that look at a job (`backs_waitFrom`, `backs_watchFrom`).
`refusals_keep_status` is the account of every call: one that is a single request fails when it is
refused, with the status of the refusal, and no call fails with a status that no reply has brought.
-/

set_option autoImplicit false
set_option relaxedAutoImplicit false

namespace BulkJobs

open Http (Delivery Exchange Received Traffic)

namespace Client

/-! ### Computations with backed failures -/

section Backs

variable {β γ : Type} {client : Client} {known : List Delivery} {x : Session β}
  {f : β → Session γ} {Q : β → List Delivery → Prop} {R : γ → List Delivery → Prop}

/-- Whether a computation that comes after some deliveries fails only with what these and its own
deliveries back, and otherwise yields what `Q` says of a value and all these deliveries. -/
def Backs (known : List Delivery) (x : Session β) (Q : β → List Delivery → Prop) : Prop :=
  ∀ traffic, ∃ received, Received traffic received (x traffic).2 ∧
    match (x traffic).1 with
    | .ok value => Q value (known ++ received)
    | .error failure => failure.IsBacked (known ++ received)

namespace Backs

/-- A computation without traffic (`hrun`) is backed by what was known before, as far as its results
are (`hresult`). -/
theorem of_run {result : Traffic → Except Failure β}
    (hrun : ∀ traffic, x traffic = (result traffic, traffic))
    (hresult : ∀ traffic, match result traffic with
      | .ok value => Q value known
      | .error failure => failure.IsBacked known) : Backs known x Q := by
  intro traffic
  refine ⟨[], ?_, ?_⟩
  · rw [hrun]
    exact .nil traffic
  · rw [hrun, List.append_nil]
    exact hresult traffic

theorem pure {value : β} (hvalue : Q value known) : Backs known (Pure.pure value) Q :=
  of_run (fun _ ↦ rfl) fun _ ↦ hvalue

theorem throw {failure : Failure} (hfailure : failure.IsBacked known) :
    Backs known (MonadExcept.throw failure : Session β) Q :=
  of_run (fun _ ↦ rfl) fun _ ↦ hfailure

theorem bind (hx : Backs known x Q)
    (hf : ∀ value later, known ⊆ later → Q value later → Backs later (f value) R) :
    Backs known (x >>= f) R := by
  intro traffic
  obtain ⟨before, hbefore, hresult⟩ := hx traffic
  cases hrun : x traffic with
  | mk result traffic' =>
    rw [hrun] at hbefore hresult
    cases result with
    | error failure =>
      rw [Exchange.bind_of_error hrun]
      exact ⟨before, hbefore, hresult⟩
    | ok value =>
      rw [Exchange.bind_of_ok hrun]
      obtain ⟨after, hafter, hlast⟩ :=
        hf value (known ++ before) (List.subset_append_left known before) hresult traffic'
      rw [List.append_assoc] at hlast
      exact ⟨before ++ after, hbefore.append hafter, hlast⟩

theorem mono {Q' : β → List Delivery → Prop} (hx : Backs known x Q)
    (hQ : ∀ value later, Q value later → Q' value later) : Backs known x Q' := by
  intro traffic
  obtain ⟨received, hreceived, hresult⟩ := hx traffic
  refine ⟨received, hreceived, ?_⟩
  cases hrun : (x traffic).1 with
  | error failure =>
    rw [hrun] at hresult
    exact hresult
  | ok value =>
    rw [hrun] at hresult
    exact hQ value _ hresult

end Backs

/-- Whether a result is a value, or a failure that the deliveries back (`Failure.IsBacked`). -/
def ResultIsBacked (result : Except Failure β) (received : List Delivery) : Prop :=
  ∀ failure, result = .error failure → failure.IsBacked received

/-- Whether every failure that events tell of is backed by the deliveries (`Failure.IsBacked`). -/
def EventsAreBacked (events : List (JobEvent β)) (received : List Delivery) : Prop :=
  ∀ failure, .failed failure ∈ events → failure.IsBacked received

/-- Whether all failures of a computation are backed by its own deliveries, whatever came before
it. -/
def IsBacked (x : Session β) : Prop :=
  ∀ known, Backs known x fun _ _ ↦ True

/-- What was attempted may be kept as a value: if it is a failure, the deliveries of the attempt
back it. -/
theorem IsBacked.attempt (hx : IsBacked x) (known : List Delivery) :
    Backs known (x.attempt : Session (Except Failure β)) ResultIsBacked := by
  intro traffic
  obtain ⟨received, hreceived, hresult⟩ := hx known traffic
  refine ⟨received, hreceived, ?_⟩
  intro failure hfailure
  have herror : (x traffic).1 = .error failure := hfailure
  rw [herror] at hresult
  exact hresult

theorem IsBacked.bind (hx : IsBacked x) (hf : ∀ value, IsBacked (f value)) :
    IsBacked (x >>= f) :=
  fun known ↦ (hx known).bind fun value later _ _ ↦ hf value later

theorem IsBacked.pure (value : β) : IsBacked (Pure.pure value) :=
  fun _ ↦ .pure trivial

theorem IsBacked.get : IsBacked (MonadState.get : Session Traffic) :=
  fun _ ↦ .of_run (fun _ ↦ rfl) fun _ ↦ trivial

theorem Asks.isBacked {asked : Option Http.Request} (hx : client.Asks asked x) :
    IsBacked x := by
  intro known traffic
  obtain ⟨received, hreceived, -, hbacked, -⟩ := hx.account traffic
  refine ⟨received, hreceived, ?_⟩
  cases hresult : (x traffic).1 with
  | ok value => trivial
  | error failure =>
    exact (hbacked failure hresult).mono (List.subset_append_right known received)

end Backs

/-! ### Operations of several requests -/

section Operations

variable {α : Type} [JobSnapshot α] {client : Client} {id : String} {received : List Delivery}

theorem isBacked_getJob (α : Type) [JobSnapshot α] (client : Client) (id : String) :
    IsBacked (getJob α client id) :=
  (asks_getJob client id).isBacked

theorem isBacked_abortJob (α : Type) [JobSnapshot α] (client : Client) (id : String) :
    IsBacked (abortJob α client id) := by
  have hrequest : IsBacked (requestAbort α client id) :=
    (asks_patchJson client _ _ _).isBacked
  intro known
  refine (hrequest.attempt known).bind fun answer later _ hbacked ↦ ?_
  cases answer with
  | ok job => exact .pure trivial
  | error failure =>
    have hfailure : failure.IsBacked later := hbacked failure rfl
    simp only
    split_ifs
    · refine ((isBacked_getJob α client id).attempt later).bind fun current final hfinal _ ↦ ?_
      cases current with
      | error _ => exact .throw (hfailure.mono hfinal)
      | ok current =>
        simp only
        split_ifs
        · exact .pure trivial
        · exact .throw (hfailure.mono hfinal)
    · exact .throw hfailure

/-- Waiting ends with what was seen last, or with a timeout, which has no status; so its result is
backed as the look was (`hseen`). -/
theorem resultIsBacked_of_verdict? {polling : Polling} {elapsed : Span}
    {seen result : Except Failure α} (hseen : ResultIsBacked seen received)
    (hverdict : polling.verdict? id elapsed seen = some result) :
    ResultIsBacked result received := by
  intro failure hfailure
  rw [hfailure] at hverdict
  cases seen with
  | error problem =>
    cases hverdict
    exact hseen failure rfl
  | ok job =>
    simp only [Polling.verdict?] at hverdict
    split at hverdict
    · cases hverdict
    · split at hverdict
      · cases hverdict
        exact .of_status? rfl received
      · cases hverdict

theorem failed_notMem_changesFrom {failure : Failure} (last : Option JobState) (jobs : List α) :
    .failed failure ∉ changesFrom last jobs := by
  induction jobs generalizing last with
  | nil => exact List.not_mem_nil
  | cons job jobs ih =>
    rw [changesFrom, List.mem_append]
    rintro (hchange | hlater)
    · split_ifs at hchange
      · cases hchange
      · cases List.mem_singleton.mp hchange
    · exact ih _ hlater

theorem eventsAreBacked_events {polling : Polling} {elapsed : Span} {last : Option JobState}
    {seen : Except Failure α} (hseen : ResultIsBacked seen received) :
    EventsAreBacked (polling.events id elapsed last seen) received := by
  intro failure hmem
  rw [Polling.events_eq, List.mem_append] at hmem
  rcases hmem with hchange | hclosing
  · exact absurd hchange (failed_notMem_changesFrom last _)
  · obtain ⟨result, hverdict, hclosing⟩ := List.mem_map.mp hclosing
    have hbacked : ResultIsBacked result received :=
      resultIsBacked_of_verdict? hseen (Option.mem_toList.mp hverdict)
    cases result with
    | ok job => cases hclosing
    | error problem =>
      cases hclosing
      exact hbacked failure rfl

theorem backs_waitFrom {polling : Polling} {clock : Nat → Span} {look : Session (Except Failure α)}
    (hlook : ∀ known, Backs known look ResultIsBacked) (more number : Nat)
    (known : List Delivery) :
    Backs known (polling.waitFrom id clock look more number) ResultIsBacked := by
  induction more generalizing number known with
  | zero => exact hlook known
  | succ more ih =>
    rw [Polling.waitFrom]
    refine (hlook known).bind fun seen later _ hseen ↦ ?_
    cases hverdict : polling.verdict? id (clock number) seen with
    | some result => exact .pure (resultIsBacked_of_verdict? hseen hverdict)
    | none => exact ih (number + 1) later

theorem backs_watchFrom {polling : Polling} {clock : Nat → Span}
    {look : Session (Except Failure α)} (hlook : ∀ known, Backs known look ResultIsBacked)
    (more number : Nat) (last : Option JobState) (room : Option Nat) (known : List Delivery) :
    Backs known (polling.watchFrom id clock look more number last room) EventsAreBacked := by
  induction more generalizing number last room known with
  | zero =>
    exact (hlook known).bind fun seen later _ hseen ↦ .pure (eventsAreBacked_events hseen)
  | succ more ih =>
    rw [Polling.watchFrom]
    refine (hlook known).bind fun seen later _ hseen ↦ ?_
    have htold : EventsAreBacked (polling.events id (clock number) last seen) later :=
      eventsAreBacked_events hseen
    simp only
    split_ifs
    · exact .pure htold
    · refine (ih (number + 1) _ _ later).bind fun told final hfinal hmore ↦ .pure ?_
      intro failure hmem
      rcases List.mem_append.mp hmem with hbefore | hafter
      · exact (htold failure hbefore).mono hfinal
      · exact hmore failure hafter

theorem isBacked_waitForJob (α : Type) [JobSnapshot α] (client : Client) (clock : Nat → Span)
    (id : String) : IsBacked (waitForJob α client clock id) := by
  refine IsBacked.get.bind fun traffic known ↦ ?_
  refine (backs_waitFrom (isBacked_getJob α client id).attempt _ _ known).bind
    fun result later _ hbacked ↦ ?_
  refine .of_run (fun _ ↦ rfl) fun _ ↦ ?_
  cases result with
  | ok job => trivial
  | error failure => exact hbacked failure rfl

theorem backs_watchJob (α : Type) [JobSnapshot α] (client : Client) (clock : Nat → Span)
    (id : String) (room : Option Nat) (known : List Delivery) :
    Backs known (watchJob α client clock id room) fun watched later ↦
      EventsAreBacked watched.events later := by
  refine (IsBacked.get known).bind fun traffic later _ _ ↦ ?_
  refine (backs_watchFrom (isBacked_getJob α client id).attempt _ _ _ room later).bind
    fun events final _ hbacked ↦ ?_
  cases room with
  | none => exact .pure hbacked
  | some room => exact .pure fun failure hmem ↦ hbacked failure (List.mem_of_mem_take hmem)

theorem isBacked_uploadOrAbort (client : Client) (id : String) (data : Octets) :
    IsBacked (client.uploadOrAbort id data) := by
  intro known
  refine (((asks_upload client id data).isBacked).attempt known).bind
    fun answer later _ hbacked ↦ ?_
  cases answer with
  | ok _ => exact .pure trivial
  | error failure =>
    exact ((isBacked_abortJob IngestJob client id).attempt later).bind fun _ final hfinal _ ↦
      .throw ((hbacked failure rfl).mono hfinal)

theorem isBacked_followResults (client : Client) (id : String) (more : Nat)
    (locator : Option String) (joined : String) :
    IsBacked (client.followResults id more locator joined) := by
  induction more generalizing locator joined with
  | zero =>
    exact (asks_queryResults client id locator none).isBacked.bind fun page ↦ .pure _
  | succ more ih =>
    refine (asks_queryResults client id locator none).isBacked.bind fun page ↦ ?_
    cases nextLocator? locator page with
    | none => exact .pure _
    | some next => exact ih (some next) _

theorem isBacked_allQueryResults (client : Client) (id : String) :
    IsBacked (client.allQueryResults id) :=
  IsBacked.get.bind fun _ ↦ isBacked_followResults client id _ _ _

theorem isBacked_followPages (α : Type) [JobSnapshot α] (client : Client)
    {fetch : String → Session (JobPage Json)} (hfetch : ∀ url, IsBacked (fetch url)) (more : Nat)
    (current : String) (page : JobPage Json) :
    IsBacked (followPages α client fetch more current page) := by
  induction more generalizing current page with
  | zero =>
    unfold followPages
    cases client.nextUrl? current page with
    | none => exact .pure _
    | some next => exact (hfetch next).bind fun _ ↦ .pure _
  | succ more ih =>
    unfold followPages
    cases client.nextUrl? current page with
    | none => exact .pure _
    | some next =>
      exact (hfetch next).bind fun following ↦ (ih next following).bind fun _ ↦ .pure _

theorem isBacked_listJobs (α : Type) [JobSnapshot α] (client : Client) :
    IsBacked (listJobs α client) :=
  IsBacked.get.bind fun _ ↦ (asks_executeJson _ _).isBacked.bind fun first ↦
    isBacked_followPages α client (fun url ↦ (asks_getJson client _ url).isBacked) _ _ first

theorem isBacked_ingestOutcome (client : Client) (delimiter : ColumnDelimiter) (job : IngestJob) :
    IsBacked (client.ingestOutcome delimiter job) := by
  unfold ingestOutcome
  split_ifs
  · exact (asks_fetchSet client delimiter .successful job.id).isBacked.bind fun _ ↦
      (asks_fetchSet client delimiter .failed job.id).isBacked.bind fun _ ↦
        (asks_fetchSet client delimiter .unprocessed job.id).isBacked.bind fun _ ↦ .pure _
  · exact .pure _

theorem isBacked_runIngest (client : Client) (clock : Nat → Span) (draft : IngestDraft)
    (data : Octets) : IsBacked (client.runIngest clock draft data) :=
  (asks_createIngestJob client draft).isBacked.bind fun _ ↦
    (isBacked_uploadOrAbort client _ data).bind fun _ ↦
      (asks_closeJob client _).isBacked.bind fun _ ↦
        (isBacked_waitForJob IngestJob client clock _).bind fun job ↦
          isBacked_ingestOutcome client _ job

theorem isBacked_runQuery (client : Client) (clock : Nat → Span) (draft : QueryDraft) :
    IsBacked (client.runQuery clock draft) := by
  refine (asks_createQueryJob client draft).isBacked.bind fun _ ↦
    (isBacked_waitForJob QueryJob client clock _).bind fun job ↦ ?_
  split_ifs
  · exact (isBacked_allQueryResults client job.id).bind fun _ ↦ .pure _
  · exact .pure _

end Operations

end Client

namespace Call

/-- Whether a call is a single request. The others go on from reply to reply, or may look at the job
again. -/
def IsSingle : {α : Type} → Call α → Bool
  | _, abort _ _ | _, list _ | _, wait _ _ | _, watch _ _ _ => false
  | _, allQueryResults _ | _, runIngest _ _ | _, runQuery _ => false
  | _, _ => true

/-- The request of a call that is a single request, unless its arguments are refused before it is
made. -/
def request? (client : Client) : {α : Type} → Call α → Option Http.Request
  | _, createIngest draft => draft.validate.toOption.bind fun _ ↦
    some ((client.org.request .post (client.kindUrl .ingest)).withJson draft.encode)
  | _, createQuery draft => draft.validate.toOption.bind fun _ ↦
    some ((client.org.request .post (client.kindUrl .query)).withJson draft.encode)
  | _, get α id => some (client.org.request .get (client.jobUrl (JobSnapshot.kind α) id))
  | _, delete kind id => some (client.org.request .delete (client.jobUrl kind id))
  | _, upload id data =>
    some ((client.org.request .put (client.resourceUrl .ingest id "batches")).withCsv data)
  | _, close id =>
    some ((client.org.request .patch (client.jobUrl .ingest id)).withJson
      (Client.stateChange .uploadComplete))
  | _, fetchArtifact artifact id | _, fetchSet _ artifact id =>
    some (client.org.request .get (client.resourceUrl .ingest id artifact.path)).acceptingCsv
  | _, queryResults id locator limit => some (client.pageRequest id locator limit)
  | _, getJson _ path => some (client.org.request .get path)
  | _, postJson _ path body => some ((client.org.request .post path).withJson body)
  | _, patchJson _ path body => some ((client.org.request .patch path).withJson body)
  | _, deleteAt path => some (client.org.request .delete path)
  | _, _ => none

/-- The failures that the caller of an operation learns of: the one it ends with, or those that the
observer of a job is told of. -/
def failures : {α : Type} → Call α → Except Failure α → List Failure
  | _, _, .error failure => [failure]
  | _, watch _ _ _, .ok watched => watched.events.filterMap fun
    | .failed failure => some failure
    | _ => none
  | _, _, .ok _ => []

theorem asks_of_isSingle {α : Type} (client : Client) (clock : Nat → Span) (call : Call α)
    (hsingle : call.IsSingle = true) :
    client.Asks (call.request? client) (call.run client clock) := by
  cases call with
  | createIngest draft => exact Client.asks_createIngestJob client draft
  | createQuery draft => exact Client.asks_createQueryJob client draft
  | get α id => exact Client.asks_getJob client id
  | delete kind id => exact Client.asks_delete client _
  | upload id data => exact Client.asks_upload client id data
  | close id => exact Client.asks_closeJob client id
  | fetchArtifact artifact id => exact Client.asks_fetchArtifact client artifact id
  | fetchSet delimiter artifact id => exact Client.asks_fetchSet client delimiter artifact id
  | queryResults id locator limit => exact Client.asks_queryResults client id locator limit
  | getJson decode path => exact Client.asks_getJson client decode path
  | postJson decode path body => exact Client.asks_postJson client decode path body
  | patchJson decode path body => exact Client.asks_patchJson client decode path body
  | deleteAt path => exact Client.asks_delete client path
  | abort | list | wait | watch | allQueryResults | runIngest | runQuery => cases hsingle

theorem failures_ok_of_isSingle {α : Type} {call : Call α} (hsingle : call.IsSingle = true)
    (value : α) : call.failures (.ok value) = [] := by
  cases call <;> first | rfl | cases hsingle

theorem backs_of_silent {α : Type} {client : Client} {clock : Nat → Span} (call : Call α)
    (hsilent : ∀ value, call.failures (.ok value) = [])
    (hbacked : Client.IsBacked (call.run client clock)) (known : List Delivery) :
    Client.Backs known (call.run client clock) fun value later ↦
      ∀ failure ∈ call.failures (.ok value), failure.IsBacked later := by
  refine (hbacked known).mono fun value later _ failure hmem ↦ ?_
  rw [hsilent] at hmem
  cases hmem

/-- Every failure that the caller of an operation learns of is backed by the deliveries of the call
(`Call.failures`), single or not. -/
theorem backs_run {α : Type} (client : Client) (clock : Nat → Span) (call : Call α)
    (known : List Delivery) :
    Client.Backs known (call.run client clock) fun value later ↦
      ∀ failure ∈ call.failures (.ok value), failure.IsBacked later := by
  by_cases hsingle : call.IsSingle = true
  · exact backs_of_silent call (failures_ok_of_isSingle hsingle)
      (asks_of_isSingle client clock call hsingle).isBacked known
  cases call with
  | watch α id room =>
    refine (Client.backs_watchJob α client clock id room known).mono fun watched later hbacked ↦ ?_
    intro failure hmem
    obtain ⟨event, hevent, htold⟩ := List.mem_filterMap.mp hmem
    cases event with
    | stateChanged previous job => cases htold
    | finished job => cases htold
    | failed problem =>
      cases htold
      exact hbacked failure hevent
  | abort α id =>
    exact backs_of_silent (.abort α id) (fun _ ↦ rfl) (Client.isBacked_abortJob α client id) known
  | list α =>
    exact backs_of_silent (.list α) (fun _ ↦ rfl) (Client.isBacked_listJobs α client) known
  | wait α id =>
    exact backs_of_silent (.wait α id) (fun _ ↦ rfl)
      (Client.isBacked_waitForJob α client clock id) known
  | allQueryResults id =>
    exact backs_of_silent (.allQueryResults id) (fun _ ↦ rfl)
      (Client.isBacked_allQueryResults client id) known
  | runIngest draft data =>
    exact backs_of_silent (.runIngest draft data) (fun _ ↦ rfl)
      (Client.isBacked_runIngest client clock draft data) known
  | runQuery draft =>
    exact backs_of_silent (.runQuery draft) (fun _ ↦ rfl)
      (Client.isBacked_runQuery client clock draft) known
  | _ => exact absurd rfl hsingle

end Call

/-- Failures keep the status of the refusal. A call that is a single request has the message of this
request delivered whenever the request can be built, and nothing else; it fails when the reply to it
brings a status that is no success, whatever else the reply carries, with a failure that comes from
a failure of the request; both have this status, and the failure is sorted by it. And of no call,
single or not, the caller learns of a failure with a status that no reply has brought. -/
theorem refusals_keep_status {α : Type} (client : Client) (clock : Nat → Span) (call : Call α)
    (traffic : Traffic) :
    ∃ received, Received traffic received (call.run client clock traffic).2 ∧
      (call.IsSingle = true →
        received.map (·.message) = (client.messageOf? (call.request? client)).toList ∧
        ∀ delivery ∈ received, ∀ status, delivery.Brings status →
          ¬(200 ≤ status ∧ status ≤ 299) →
            ∃ failure, (call.run client clock traffic).1 = .error (.ofHttp failure) ∧
              failure.status? = some status ∧ (Failure.ofHttp failure).Refuses status) ∧
      ∀ failure ∈ call.failures (call.run client clock traffic).1, failure.IsBacked received := by
  by_cases hsingle : call.IsSingle = true
  · obtain ⟨received, hreceived, hmessages, hbacked, hrefused⟩ :=
      (call.asks_of_isSingle client clock hsingle).account traffic
    refine ⟨received, hreceived, fun _ ↦ ⟨hmessages, hrefused⟩, ?_⟩
    intro failure hmem
    cases hresult : (call.run client clock traffic).1 with
    | ok value =>
      rw [hresult, Call.failures_ok_of_isSingle hsingle] at hmem
      cases hmem
    | error own =>
      rw [hresult] at hmem
      obtain rfl : failure = own := by simpa [Call.failures] using hmem
      exact hbacked failure hresult
  · obtain ⟨received, hreceived, hresult⟩ := call.backs_run client clock [] traffic
    refine ⟨received, hreceived, fun h ↦ absurd h hsingle, ?_⟩
    intro failure hmem
    cases hrun : (call.run client clock traffic).1 with
    | ok value =>
      rw [hrun] at hresult hmem
      exact hresult failure hmem
    | error own =>
      rw [hrun] at hresult hmem
      obtain rfl : failure = own := by simpa [Call.failures] using hmem
      exact hresult

/-- A look at a job that the service does not know, at a short instance URL: the reply is received,
and the failure says that there is no such job. -/
theorem refusals_keep_status_missing :
    ∃ received delivery, received = [delivery] ∧ delivery.Brings 404 ∧
      Received { replies := [{ status := 404 }] } received
        ((Call.get IngestJob "1").run { org := Org.sample } (fun _ ↦ .ofSeconds 0)
          { replies := [{ status := 404 }] }).2 ∧
      ∃ failure, ((Call.get IngestJob "1").run { org := Org.sample } (fun _ ↦ .ofSeconds 0)
          { replies := [{ status := 404 }] }).1 = .error failure ∧
        failure.status? = some 404 ∧ failure.isNotFound = true := by
  obtain ⟨received, hreceived, hsingle, -⟩ := refusals_keep_status { org := Org.sample }
    (fun _ ↦ .ofSeconds 0) (.get IngestJob "1") { replies := [{ status := 404 }] }
  obtain ⟨hmessages, hrefused⟩ := hsingle rfl
  have hbuilt : (Client.messageOf? { org := Org.sample }
      (Call.request? { org := Org.sample } (.get IngestJob "1"))).isSome = true := by
    decide +kernel
  obtain ⟨message, hmessage⟩ := Option.isSome_iff_exists.mp hbuilt
  rw [hmessage] at hmessages
  obtain ⟨delivery, rfl, -⟩ := List.map_eq_singleton_iff.mp hmessages
  have hbrings : delivery.Brings 404 := by
    obtain ⟨hdelivery, -⟩ := hreceived.of_reply rfl rfl
    rw [hdelivery]
    exact Delivery.brings_of_isFinal rfl rfl
  obtain ⟨failure, hfailed, -, hsorted⟩ :=
    hrefused delivery (List.mem_singleton_self delivery) 404 hbrings (by decide)
  exact ⟨[delivery], delivery, rfl, hbrings, hreceived, .ofHttp failure, hfailed,
    hsorted.status?_eq, hsorted.isNotFound_iff.mpr rfl⟩

end BulkJobs
