import BulkJobs.Proofs.Client.Call
import BulkJobs.Proofs.Http.Likeness
import BulkJobs.Proofs.Org.Plain

/-!
# Operations do not depend on the token

`IgnoresToken client x` says that clients which differ from `client` in the token alone run `x`
alike: with the same result or the same failure, and with messages that differ in the value of the
authorization alone. Every request of a client is authorized, and nothing else of it holds the token
(`ignoresToken_executeJson`), so each operation ignores the token as the requests do that it is made
of; the loops do so by induction on the number of steps that are left. With
`token_reaches_authorization_only` this is said of every call, from like states of the network on,
so it holds of calls one after another as well.
-/

set_option autoImplicit false
set_option relaxedAutoImplicit false

namespace BulkJobs

open JobSnapshot (kind)
open Http (Exchange Header Message Traffic)

namespace Client

/-- The client with another access token, and everything else as it was. -/
def withToken (client : Client) (token : String) : Client :=
  { client with org := { client.org with accessToken := token } }

section WithToken

variable (client : Client) (token : String)

@[simp]
theorem withToken_polling : (client.withToken token).polling = client.polling := rfl

@[simp]
theorem withToken_url (path : String) :
    (client.withToken token).org.url path = client.org.url path := by
  have hinstance : (client.withToken token).org.instanceUrl = client.org.instanceUrl := rfl
  simp only [Org.url, Org.isOrigin, hinstance]
  rfl

@[simp]
theorem withToken_jobsUrl (path : String) :
    (client.withToken token).org.jobsUrl path = client.org.jobsUrl path := by
  have hinstance : (client.withToken token).org.instanceUrl = client.org.instanceUrl := rfl
  have hversion : (client.withToken token).org.apiVersion = client.org.apiVersion := rfl
  simp only [Org.jobsUrl, hinstance, hversion]

@[simp]
theorem withToken_kindUrl (family : JobKind) :
    (client.withToken token).kindUrl family = client.kindUrl family := by
  simp only [kindUrl, withToken_jobsUrl]

@[simp]
theorem withToken_jobUrl (family : JobKind) (id : String) :
    (client.withToken token).jobUrl family id = client.jobUrl family id := by
  simp only [jobUrl, withToken_jobsUrl]

theorem withToken_resourceUrl (family : JobKind) (id resource : String) :
    (client.withToken token).resourceUrl family id resource =
      client.resourceUrl family id resource := by
  simp only [resourceUrl, withToken_jobUrl]

@[simp]
theorem withToken_nextUrl? (current : String) (page : JobPage Json) :
    (client.withToken token).nextUrl? current page = client.nextUrl? current page := by
  have hurl : (client.withToken token).org.url = client.org.url :=
    funext (withToken_url client token)
  simp only [nextUrl?, hurl]

end WithToken

variable {β γ : Type} {client : Client} {x : Client → Session β} {f : Client → β → Session γ}

/-- Whether a computation runs alike (`Exchange.Alike`) for clients that differ in the token alone,
whatever two tokens these are, as long as both can stand in a header. -/
def IgnoresToken (client : Client) (x : Client → Session β) : Prop :=
  ∀ token token', Header.isValue token = true → Header.isValue token' = true →
    Exchange.Alike token token' (x (client.withToken token)) (x (client.withToken token'))

namespace IgnoresToken

theorem ofExcept (result : Except Failure β) :
    IgnoresToken client fun _ ↦ Exchange.ofExcept result :=
  fun _ _ _ _ ↦ .ofExcept result

theorem pure (value : β) : IgnoresToken client fun _ ↦ (Pure.pure value : Session β) :=
  ofExcept (.ok value)

theorem throw (failure : Failure) :
    IgnoresToken client fun _ ↦ (MonadExcept.throw failure : Session β) :=
  ofExcept (.error failure)

theorem bind (hx : IgnoresToken client x) (hf : ∀ value, IgnoresToken client (f · value)) :
    IgnoresToken client fun client ↦ x client >>= f client :=
  fun token token' htoken htoken' ↦
    (hx token token' htoken htoken').bind fun value ↦ hf value token token' htoken htoken'

theorem attempt (hx : IgnoresToken client x) :
    IgnoresToken client fun client ↦ ((x client).attempt : Session (Except Failure β)) :=
  fun token token' htoken htoken' ↦ (hx token token' htoken htoken').attempt

/-- A computation may look at the state of the network, as long as only the replies that are to come
count: the messages sent so far differ in the token. -/
theorem get_bind {f : Client → List Http.Reply → Session γ}
    (hf : ∀ replies, IgnoresToken client (f · replies)) :
    IgnoresToken client fun client ↦ get >>= fun traffic ↦ f client traffic.replies := by
  intro token token' htoken htoken'
  refine .get_bind fun traffic traffic' hlike ↦ ?_
  rw [hlike.replies]
  exact hf _ token token' htoken htoken'

end IgnoresToken

/-- It is enough to know what a computation is for the clients that are compared (`h`), those with
one token or another. -/
theorem IgnoresToken.congr {y : Client → Session β} (hy : IgnoresToken client y)
    (h : ∀ token, x (client.withToken token) = y (client.withToken token)) :
    IgnoresToken client x := by
  intro token token' htoken htoken'
  rw [h, h]
  exact hy token token' htoken htoken'

/-! ### Requests -/

/-- Whether the token is all that tells the requests of such clients apart: the request of one
client with another bearer is that of the other one. -/
def TakesToken (client : Client) (request : Client → Http.Request) : Prop :=
  ∀ token, request (client.withToken token) = (request client).authorized token

section Requests

variable {α : Type} {request : Client → Http.Request} {path : Client → String}

namespace TakesToken

theorem of_path (method : Http.Method)
    (hpath : ∀ token, path (client.withToken token) = path client) :
    TakesToken client fun client ↦ client.org.request method (path client) := by
  intro token
  simp only [Org.request, withToken_url, hpath token]
  rfl

theorem modify (h : TakesToken client request) (change : Http.Request → Http.Request)
    (hchange : ∀ request token,
      change (request.authorized token) = (change request).authorized token) :
    TakesToken client fun client ↦ change (request client) := by
  intro token
  simp only [h token, hchange]

theorem withJson (h : TakesToken client request) (body : Json) :
    TakesToken client fun client ↦ (request client).withJson body :=
  h.modify (·.withJson body) fun _ _ ↦ rfl

theorem withCsv (h : TakesToken client request) (data : Octets) :
    TakesToken client fun client ↦ (request client).withCsv data :=
  h.modify (·.withCsv data) fun _ _ ↦ rfl

theorem acceptingCsv (h : TakesToken client request) :
    TakesToken client fun client ↦ (request client).acceptingCsv :=
  h.modify Http.Request.acceptingCsv fun _ _ ↦ rfl

theorem withQuery (h : TakesToken client request) (name value : String) :
    TakesToken client fun client ↦ (request client).withQuery name value :=
  h.modify (·.withQuery name value) fun _ _ ↦ rfl

end TakesToken

theorem ignoresToken_execute (hrequest : TakesToken client request) :
    IgnoresToken client fun client ↦ lift (client.org.execute (request client)) := by
  intro token token' htoken htoken'
  have hlike := Exchange.Alike.execute htoken htoken' client.org.http (request client)
  rw [← hrequest, ← hrequest] at hlike
  exact hlike.mapFailure _

theorem ignoresToken_executeJson (hrequest : TakesToken client request)
    (decode : Json.Decoder α) : IgnoresToken client fun client ↦
      lift (Http.executeJson client.org.http decode (request client)) := by
  intro token token' htoken htoken'
  have hlike := Exchange.Alike.executeJson htoken htoken' client.org.http decode (request client)
  rw [← hrequest, ← hrequest] at hlike
  exact hlike.mapFailure _

theorem ignoresToken_getJson (hpath : ∀ token, path (client.withToken token) = path client)
    (decode : Json.Decoder α) :
    IgnoresToken client fun client ↦ lift (client.org.getJson decode (path client)) :=
  ignoresToken_executeJson (.of_path .get hpath) decode

theorem ignoresToken_postJson (hpath : ∀ token, path (client.withToken token) = path client)
    (decode : Json.Decoder α) (body : Json) :
    IgnoresToken client fun client ↦ lift (client.org.postJson decode (path client) body) :=
  ignoresToken_executeJson ((TakesToken.of_path .post hpath).withJson body) decode

theorem ignoresToken_patchJson (hpath : ∀ token, path (client.withToken token) = path client)
    (decode : Json.Decoder α) (body : Json) :
    IgnoresToken client fun client ↦ lift (client.org.patchJson decode (path client) body) :=
  ignoresToken_executeJson ((TakesToken.of_path .patch hpath).withJson body) decode

theorem ignoresToken_delete (hpath : ∀ token, path (client.withToken token) = path client) :
    IgnoresToken client fun client ↦ lift (client.org.delete (path client)) := by
  have hrequest := TakesToken.of_path .delete hpath
  intro token token' htoken htoken'
  have hlike := Exchange.Alike.execute htoken htoken' client.org.http
    (client.org.request .delete (path client))
  rw [← hrequest, ← hrequest] at hlike
  exact (hlike.bind fun _ ↦ .pure ()).mapFailure _

end Requests

variable {α : Type}

/-! ### One job -/

theorem ignoresToken_deleteJob (family : JobKind) (id : String) :
    IgnoresToken client (deleteJob · family id) :=
  ignoresToken_delete (by simp)

section Job

variable [JobSnapshot α] {polling : Polling} {id : String} {clock : Nat → Span}
  {look : Client → Session (Except Failure α)}

theorem ignoresToken_getJob (id : String) : IgnoresToken client (getJob α · id) :=
  ignoresToken_getJson (by simp) _

theorem ignoresToken_abortJob (id : String) : IgnoresToken client (abortJob α · id) := by
  have hrequest : IgnoresToken client (requestAbort α · id) :=
    ignoresToken_patchJson (by simp) _ _
  unfold abortJob
  refine hrequest.attempt.bind fun answer ↦ ?_
  cases answer with
  | ok job => exact .pure job
  | error failure =>
    simp only
    split_ifs
    · refine (ignoresToken_getJob id).attempt.bind fun current ↦ ?_
      cases current with
      | error _ => exact .throw failure
      | ok current =>
        simp only
        split_ifs
        · exact .pure current
        · exact .throw failure
    · exact .throw failure

theorem ignoresToken_waitFrom (hlook : IgnoresToken client look) (more number : Nat) :
    IgnoresToken client fun client ↦ polling.waitFrom id clock (look client) more number := by
  induction more generalizing number with
  | zero => exact hlook
  | succ more ih =>
    simp only [Polling.waitFrom]
    refine hlook.bind fun seen ↦ ?_
    cases polling.verdict? id (clock number) seen with
    | some result => exact .pure result
    | none => exact ih (number + 1)

theorem ignoresToken_watchFrom (hlook : IgnoresToken client look) (more number : Nat)
    (last : Option JobState) (room : Option Nat) : IgnoresToken client fun client ↦
      polling.watchFrom id clock (look client) more number last room := by
  induction more generalizing number last room with
  | zero => exact hlook.bind fun _ ↦ .pure _
  | succ more ih =>
    simp only [Polling.watchFrom]
    refine hlook.bind fun seen ↦ ?_
    split_ifs
    · exact .pure _
    · exact (ih _ _ _).bind fun _ ↦ .pure _

theorem ignoresToken_waitForJob (clock : Nat → Span) (id : String) :
    IgnoresToken client (waitForJob α · clock id) := by
  have hwait (replies : List Http.Reply) : IgnoresToken client fun other ↦
      client.polling.waitFrom id clock (look α other id) replies.length 0 :=
    ignoresToken_waitFrom (ignoresToken_getJob id).attempt _ _
  refine IgnoresToken.congr (.get_bind fun replies ↦ (hwait replies).bind fun result ↦
    .ofExcept result) fun token ↦ ?_
  simp only [waitForJob, withToken_polling]

theorem ignoresToken_watchJob (clock : Nat → Span) (id : String) (room : Option Nat) :
    IgnoresToken client (watchJob α · clock id room) := by
  have hwatch (replies : List Http.Reply) : IgnoresToken client fun other ↦
      client.polling.watchFrom id clock (look α other id) replies.length 0 none room :=
    ignoresToken_watchFrom (ignoresToken_getJob id).attempt _ _ _ _
  cases room with
  | none =>
    refine IgnoresToken.congr (.get_bind fun replies ↦ (hwatch replies).bind fun events ↦
      .pure (Watched.mk events true)) fun token ↦ ?_
    simp only [watchJob, withToken_polling]
  | some room =>
    refine IgnoresToken.congr (.get_bind fun replies ↦ (hwatch replies).bind fun events ↦
      .pure (Watched.mk (events.take room) (events.length < room))) fun token ↦ ?_
    simp only [watchJob, withToken_polling]

end Job

/-! ### Ingest jobs -/

theorem ignoresToken_createIngestJob (draft : IngestDraft) :
    IgnoresToken client (createIngestJob · draft) :=
  (IgnoresToken.ofExcept _).bind fun _ ↦
    ignoresToken_postJson (by simp) _ _

theorem ignoresToken_upload (id : String) (data : Octets) :
    IgnoresToken client (upload · id data) :=
  (ignoresToken_execute ((TakesToken.of_path .put fun token ↦
    client.withToken_resourceUrl token .ingest id "batches").withCsv data)).bind fun _ ↦ .pure ()

theorem ignoresToken_closeJob (id : String) : IgnoresToken client (closeJob · id) :=
  ignoresToken_patchJson (by simp) _ _

theorem ignoresToken_fetchArtifact (artifact : Artifact) (id : String) :
    IgnoresToken client (fetchArtifact · artifact id) :=
  (ignoresToken_execute (TakesToken.of_path .get fun token ↦
    client.withToken_resourceUrl token .ingest id artifact.path).acceptingCsv).bind fun response ↦
    .ofExcept (response.streamBytes.mapError Failure.ofHttp)

theorem ignoresToken_fetchSet (delimiter : ColumnDelimiter) (artifact : Artifact) (id : String) :
    IgnoresToken client (fetchSet · delimiter artifact id) :=
  (ignoresToken_fetchArtifact artifact id).bind fun _ ↦ .ofExcept _

theorem ignoresToken_uploadOrAbort (id : String) (data : Octets) :
    IgnoresToken client (uploadOrAbort · id data) := by
  have habort : IgnoresToken client (abortJob IngestJob · id) := ignoresToken_abortJob id
  refine (ignoresToken_upload id data).attempt.bind fun answer ↦ ?_
  cases answer with
  | ok _ => exact .pure ()
  | error failure => exact habort.attempt.bind fun _ ↦ .throw failure

theorem ignoresToken_ingestOutcome (delimiter : ColumnDelimiter) (job : IngestJob) :
    IgnoresToken client (ingestOutcome · delimiter job) := by
  have hfetch (artifact : Artifact) : IgnoresToken client (fetchSet · delimiter artifact job.id) :=
    ignoresToken_fetchSet delimiter artifact job.id
  unfold ingestOutcome
  split_ifs
  · exact (hfetch .successful).bind fun _ ↦ (hfetch .failed).bind fun _ ↦
      (hfetch .unprocessed).bind fun _ ↦ .pure _
  · exact .pure _

theorem ignoresToken_runIngest (clock : Nat → Span) (draft : IngestDraft) (data : Octets) :
    IgnoresToken client (runIngest · clock draft data) :=
  (ignoresToken_createIngestJob draft).bind fun created ↦
    (ignoresToken_uploadOrAbort created.id data).bind fun _ ↦
      (ignoresToken_closeJob created.id).bind fun _ ↦
        (ignoresToken_waitForJob clock created.id).bind fun job ↦
          ignoresToken_ingestOutcome draft.columnDelimiter job

/-! ### Query jobs -/

theorem ignoresToken_createQueryJob (draft : QueryDraft) :
    IgnoresToken client (createQueryJob · draft) :=
  (IgnoresToken.ofExcept _).bind fun _ ↦
    ignoresToken_postJson (by simp) _ _

theorem ignoresToken_queryResults (id : String) (locator : Option String) (limit : Option Nat) :
    IgnoresToken client (queryResults · id locator limit) := by
  have hplain : TakesToken client fun client ↦
      (client.org.request .get (client.resourceUrl .query id "results")).acceptingCsv :=
    (TakesToken.of_path .get fun token ↦
      client.withToken_resourceUrl token .query id "results").acceptingCsv
  have hrequest : TakesToken client (pageRequest · id locator limit) := by
    cases locator with
    | none =>
      cases limit with
      | none => exact hplain
      | some limit => exact hplain.withQuery "maxRecords" (toString limit)
    | some locator =>
      cases limit with
      | none => exact hplain.withQuery "locator" locator
      | some limit =>
        exact (hplain.withQuery "locator" locator).withQuery "maxRecords" (toString limit)
  exact (ignoresToken_execute hrequest).bind fun response ↦
    (IgnoresToken.ofExcept (response.readText.mapError Failure.ofHttp)).bind fun csv ↦
      .pure (ResultPage.mk csv response.locator?)

theorem ignoresToken_followResults (id : String) (more : Nat) (locator : Option String)
    (joined : String) : IgnoresToken client (followResults · id more locator joined) := by
  induction more generalizing locator joined with
  | zero => exact (ignoresToken_queryResults id locator none).bind fun _ ↦ .pure _
  | succ more ih =>
    unfold followResults
    refine (ignoresToken_queryResults id locator none).bind fun page ↦ ?_
    cases nextLocator? locator page with
    | none => exact .pure _
    | some next => exact ih (some next) _

theorem ignoresToken_allQueryResults (id : String) :
    IgnoresToken client (allQueryResults · id) :=
  .get_bind fun _ ↦ ignoresToken_followResults id _ _ _

theorem ignoresToken_runQuery (clock : Nat → Span) (draft : QueryDraft) :
    IgnoresToken client (runQuery · clock draft) := by
  refine (ignoresToken_createQueryJob draft).bind fun created ↦
    (ignoresToken_waitForJob clock created.id).bind fun job ↦ ?_
  split_ifs
  · exact (ignoresToken_allQueryResults job.id).bind fun _ ↦ .pure _
  · exact .pure _

/-! ### Listings -/

section Listing

variable [JobSnapshot α]

theorem ignoresToken_followPages (more : Nat) (current : String) (page : JobPage Json) :
    IgnoresToken client fun client ↦ followPages α client
      (fun url ↦ lift (client.org.getJson pageDecoder url)) more current page := by
  have hget (next : String) : IgnoresToken client fun other ↦
      lift (other.org.getJson pageDecoder next) :=
    ignoresToken_getJson (fun _ ↦ rfl) pageDecoder
  induction more generalizing current page with
  | zero =>
    cases hnext : client.nextUrl? current page with
    | none =>
      refine IgnoresToken.congr (.pure (recognized α page)) fun token ↦ ?_
      simp only [followPages, withToken_nextUrl?, hnext]
    | some next =>
      refine IgnoresToken.congr ((hget next).bind fun following ↦
        .pure (recognized α page ++ recognized α following)) fun token ↦ ?_
      simp only [followPages, withToken_nextUrl?, hnext]
  | succ more ih =>
    cases hnext : client.nextUrl? current page with
    | none =>
      refine IgnoresToken.congr (.pure (recognized α page)) fun token ↦ ?_
      simp only [followPages, withToken_nextUrl?, hnext]
    | some next =>
      refine IgnoresToken.congr ((hget next).bind fun following ↦
        (ih next following).bind fun later ↦ .pure (recognized α page ++ later)) fun token ↦ ?_
      simp only [followPages, withToken_nextUrl?, hnext]

theorem ignoresToken_listJobs : IgnoresToken client (listJobs α) := by
  have hfirst : IgnoresToken client fun client ↦ lift (Http.executeJson client.org.http pageDecoder
      (client.listingRequest (kind α))) :=
    ignoresToken_executeJson
      ((TakesToken.of_path .get (by simp)).withQuery "jobType" _) _
  refine IgnoresToken.congr (.get_bind fun replies ↦ hfirst.bind fun first ↦
    ignoresToken_followPages replies.length (client.kindUrl (kind α)) first) fun token ↦ ?_
  simp only [listJobs, withToken_kindUrl]

end Listing

end Client

open Client

/-- The access token reaches the value of the authorization and nothing else: clients that differ
in their tokens, both fit for a header, come to the same with every call, and send messages that
differ in that value alone. -/
theorem token_reaches_authorization_only (client : Client) {token token' : String}
    (htoken : Header.isValue token = true) (htoken' : Header.isValue token' = true) {α : Type}
    (call : Call α) (clock : Nat → Span) {traffic traffic' : Traffic}
    (hlike : Traffic.Alike token token' traffic traffic') :
    (call.run (client.withToken token) clock traffic).1 =
        (call.run (client.withToken token') clock traffic').1 ∧
      Traffic.Alike token token' (call.run (client.withToken token) clock traffic).2
        (call.run (client.withToken token') clock traffic').2 := by
  have hcall : IgnoresToken client fun client ↦ call.run client clock := by
    cases call with
    | createIngest draft => exact ignoresToken_createIngestJob draft
    | createQuery draft => exact ignoresToken_createQueryJob draft
    | get α id => exact ignoresToken_getJob id
    | abort α id => exact ignoresToken_abortJob id
    | delete family id => exact ignoresToken_deleteJob family id
    | list α => exact ignoresToken_listJobs
    | wait α id => exact ignoresToken_waitForJob clock id
    | watch α id room => exact ignoresToken_watchJob clock id room
    | upload id data => exact ignoresToken_upload id data
    | close id => exact ignoresToken_closeJob id
    | fetchArtifact artifact id => exact ignoresToken_fetchArtifact artifact id
    | fetchSet delimiter artifact id => exact ignoresToken_fetchSet delimiter artifact id
    | queryResults id locator limit => exact ignoresToken_queryResults id locator limit
    | allQueryResults id => exact ignoresToken_allQueryResults id
    | runIngest draft data => exact ignoresToken_runIngest clock draft data
    | runQuery draft => exact ignoresToken_runQuery clock draft
    | getJson decode path => exact ignoresToken_getJson (fun _ ↦ rfl) decode
    | postJson decode path body => exact ignoresToken_postJson (fun _ ↦ rfl) decode body
    | patchJson decode path body => exact ignoresToken_patchJson (fun _ ↦ rfl) decode body
    | deleteAt path => exact ignoresToken_delete fun _ ↦ rfl
  exact hcall token token' htoken htoken' traffic traffic' hlike

theorem token_reaches_authorization_only_sample :
    Header.isValue "t" = true ∧ Header.isValue "00D!u" = true ∧
      ((Call.get IngestJob "1").run (Client.withToken { org := .sample } "t")
          (fun _ ↦ .ofSeconds 0) { replies := [{}] }).1 =
        ((Call.get IngestJob "1").run (Client.withToken { org := .sample } "00D!u")
          (fun _ ↦ .ofSeconds 0) { replies := [{}] }).1 ∧
      Traffic.Alike "t" "00D!u"
        ((Call.get IngestJob "1").run (Client.withToken { org := .sample } "t")
          (fun _ ↦ .ofSeconds 0) { replies := [{}] }).2
        ((Call.get IngestJob "1").run (Client.withToken { org := .sample } "00D!u")
          (fun _ ↦ .ofSeconds 0) { replies := [{}] }).2 :=
  ⟨by decide, by decide,
    token_reaches_authorization_only { org := .sample } (by decide) (by decide)
      (.get IngestJob "1") (fun _ ↦ .ofSeconds 0) (.refl "t" "00D!u" { replies := [{}] })⟩

end BulkJobs
