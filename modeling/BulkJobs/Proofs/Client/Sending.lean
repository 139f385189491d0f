import BulkJobs.Client.Ingest
import BulkJobs.Client.Query
import BulkJobs.Proofs.Http.Sending
import Mathlib.Tactic.SplitIfs

/-!
# What the operations of a client send

`client.Carries P path` says that every message which a request for the URL of `path` becomes has
the property `P`. Each operation sends messages with `P` when the paths it asks for carry `P`. The
loops that look at a job send what one look sends (`sends_waitFrom`, `sends_watchFrom`); the
operations that follow what the service answers need more: every path, for the next page of a
listing; every URL below the jobs of the org, for a job that was created.
-/

set_option autoImplicit false
set_option relaxedAutoImplicit false

namespace BulkJobs

open JobSnapshot (kind)
open Http (Message)
open Http.Exchange (Sends)

theorem JobKind.trimStartChars_path (kind : JobKind) (rest : String) :
    Text.trimStartChars ['/'] (kind.path ++ rest) = kind.path ++ rest := by
  have hhead : ((kind.path ++ rest).toList).dropWhile (['/'].contains ·) =
      (kind.path ++ rest).toList := by
    rw [String.toList_append]
    cases kind <;> rfl
  rw [Text.trimStartChars, hhead, String.ofList_toList]

namespace Client

variable {α : Type} {client : Client} {P : Message → Prop}

/-- Whether every message that a request for the URL of a path becomes has a property, whatever its
method, its parameters and its body are. -/
def Carries (client : Client) (P : Message → Prop) (path : String) : Prop :=
  ∀ request : Http.Request, request.url = client.org.url path →
    ∀ message, request.prepare client.org.http = .ok message → P message

theorem sends_getJson {path : String} (hpath : client.Carries P path) (decode : Json.Decoder α) :
    Sends P (lift (client.org.getJson decode path)) :=
  (Sends.executeJson (hpath _ rfl)).mapFailure _

theorem sends_postJson {path : String} (hpath : client.Carries P path) (decode : Json.Decoder α)
    (body : Json) : Sends P (lift (client.org.postJson decode path body)) :=
  (Sends.executeJson (hpath _ rfl)).mapFailure _

theorem sends_patchJson {path : String} (hpath : client.Carries P path) (decode : Json.Decoder α)
    (body : Json) : Sends P (lift (client.org.patchJson decode path body)) :=
  (Sends.executeJson (hpath _ rfl)).mapFailure _

theorem sends_delete {path : String} (hpath : client.Carries P path) :
    Sends P (lift (client.org.delete path)) :=
  ((Sends.execute (hpath _ rfl)).bind fun _ ↦ Sends.pure ()).mapFailure _

theorem sends_deleteJob {family : JobKind} {id : String}
    (hjob : client.Carries P (client.jobUrl family id)) : Sends P (client.deleteJob family id) :=
  sends_delete hjob

/-! ### One job -/

variable [JobSnapshot α] {id : String}

theorem sends_getJob (hjob : client.Carries P (client.jobUrl (kind α) id)) :
    Sends P (getJob α client id) :=
  sends_getJson hjob _

theorem sends_abortJob (hjob : client.Carries P (client.jobUrl (kind α) id)) :
    Sends P (abortJob α client id) := by
  unfold abortJob
  refine (sends_patchJson hjob _ _).attempt.bind fun answer ↦ ?_
  cases answer with
  | ok job => exact Sends.pure job
  | error failure =>
    simp only
    split_ifs
    · refine (sends_getJob hjob).attempt.bind fun current ↦ ?_
      cases current with
      | error _ => exact Sends.throw failure
      | ok current =>
        simp only
        split_ifs
        · exact Sends.pure current
        · exact Sends.throw failure
    · exact Sends.throw failure

/-- Looking at a job again and again, on any clock and up to any number of looks, sends what the
looks send (`hlook`). -/
theorem sends_waitFrom {polling : Polling} {clock : Nat → Span}
    {look : Session (Except Failure α)} (hlook : Sends P look) (more number : Nat) :
    Sends P (polling.waitFrom id clock look more number) := by
  induction more generalizing number with
  | zero => exact hlook
  | succ more ih =>
    rw [Polling.waitFrom]
    refine hlook.bind fun seen ↦ ?_
    cases polling.verdict? id (clock number) seen with
    | some result => exact Sends.pure result
    | none => exact ih (number + 1)

theorem sends_watchFrom {polling : Polling} {clock : Nat → Span}
    {look : Session (Except Failure α)} (hlook : Sends P look) (more number : Nat)
    (last : Option JobState) (room : Option Nat) :
    Sends P (polling.watchFrom id clock look more number last room) := by
  induction more generalizing number last room with
  | zero => exact hlook.bind fun _ ↦ Sends.pure _
  | succ more ih =>
    rw [Polling.watchFrom]
    refine hlook.bind fun seen ↦ ?_
    simp only
    split_ifs
    · exact Sends.pure _
    · exact (ih _ _ _).bind fun _ ↦ Sends.pure _

theorem sends_waitForJob (clock : Nat → Span)
    (hjob : client.Carries P (client.jobUrl (kind α) id)) :
    Sends P (waitForJob α client clock id) :=
  Sends.get.bind fun _ ↦
    (sends_waitFrom (sends_getJob hjob).attempt _ _).bind fun result ↦ Sends.ofExcept result

theorem sends_watchJob (clock : Nat → Span) (room : Option Nat)
    (hjob : client.Carries P (client.jobUrl (kind α) id)) :
    Sends P (watchJob α client clock id room) := by
  refine Sends.get.bind fun _ ↦
    (sends_watchFrom (sends_getJob hjob).attempt _ _ _ _).bind fun events ↦ ?_
  cases room <;> exact Sends.pure _

/-! ### Ingest jobs -/

theorem sends_createIngestJob (draft : IngestDraft)
    (hkind : client.Carries P (client.kindUrl .ingest)) :
    Sends P (client.createIngestJob draft) :=
  (Sends.ofExcept _).bind fun _ ↦ sends_postJson hkind _ _

theorem sends_upload (data : Octets)
    (hbatches : client.Carries P (client.resourceUrl .ingest id "batches")) :
    Sends P (client.upload id data) :=
  ((Sends.execute (hbatches _ rfl)).mapFailure _).bind fun _ ↦ Sends.pure ()

theorem sends_closeJob (hjob : client.Carries P (client.jobUrl .ingest id)) :
    Sends P (client.closeJob id) :=
  sends_patchJson hjob _ _

theorem sends_fetchArtifact (artifact : Artifact)
    (hartifact : client.Carries P (client.resourceUrl .ingest id artifact.path)) :
    Sends P (client.fetchArtifact artifact id) :=
  ((Sends.execute (hartifact _ rfl)).mapFailure _).bind fun _ ↦ (Sends.ofExcept _).mapFailure _

theorem sends_fetchSet (delimiter : ColumnDelimiter) (artifact : Artifact)
    (hartifact : client.Carries P (client.resourceUrl .ingest id artifact.path)) :
    Sends P (client.fetchSet delimiter artifact id) :=
  (sends_fetchArtifact artifact hartifact).bind fun _ ↦ Sends.ofExcept _

theorem sends_uploadOrAbort (data : Octets)
    (hbatches : client.Carries P (client.resourceUrl .ingest id "batches"))
    (hjob : client.Carries P (client.jobUrl .ingest id)) :
    Sends P (client.uploadOrAbort id data) := by
  have habort : Sends P (abortJob IngestJob client id) := sends_abortJob hjob
  refine (sends_upload data hbatches).attempt.bind fun answer ↦ ?_
  cases answer with
  | ok _ => exact Sends.pure ()
  | error failure => exact habort.attempt.bind fun _ ↦ Sends.throw failure

/-! ### Query jobs -/

theorem sends_createQueryJob (draft : QueryDraft)
    (hkind : client.Carries P (client.kindUrl .query)) : Sends P (client.createQueryJob draft) :=
  (Sends.ofExcept _).bind fun _ ↦ sends_postJson hkind _ _

theorem pageRequest_url (client : Client) (id : String) (locator : Option String)
    (limit : Option Nat) : (client.pageRequest id locator limit).url =
      client.org.url (client.resourceUrl .query id "results") := by
  cases locator <;> cases limit <;> rfl

theorem sends_queryResults (locator : Option String) (limit : Option Nat)
    (hresults : client.Carries P (client.resourceUrl .query id "results")) :
    Sends P (client.queryResults id locator limit) :=
  ((Sends.execute (hresults _ (pageRequest_url client id locator limit))).mapFailure _).bind
    fun _ ↦ ((Sends.ofExcept _).mapFailure _).bind fun _ ↦ Sends.pure _

theorem sends_followResults (hresults : client.Carries P (client.resourceUrl .query id "results"))
    (more : Nat) (locator : Option String) (joined : String) :
    Sends P (client.followResults id more locator joined) := by
  induction more generalizing locator joined with
  | zero =>
    unfold followResults
    refine (sends_queryResults locator none hresults).bind fun page ↦ ?_
    cases nextLocator? locator page <;> exact Sends.pure _
  | succ more ih =>
    unfold followResults
    refine (sends_queryResults locator none hresults).bind fun page ↦ ?_
    cases nextLocator? locator page with
    | none => exact Sends.pure _
    | some next => exact ih (some next) _

theorem sends_allQueryResults
    (hresults : client.Carries P (client.resourceUrl .query id "results")) :
    Sends P (client.allQueryResults id) :=
  Sends.get.bind fun _ ↦ sends_followResults hresults _ _ _

/-! ### Operations that follow the answers -/

theorem sends_followPages {fetch : String → Session (JobPage Json)}
    (hfetch : ∀ url, Sends P (fetch url)) (more : Nat) (current : String) (page : JobPage Json) :
    Sends P (followPages α client fetch more current page) := by
  induction more generalizing current page with
  | zero =>
    unfold followPages
    cases client.nextUrl? current page with
    | none => exact Sends.pure _
    | some next => exact (hfetch next).bind fun _ ↦ Sends.pure _
  | succ more ih =>
    unfold followPages
    cases client.nextUrl? current page with
    | none => exact Sends.pure _
    | some next =>
      refine (hfetch next).bind fun following ↦ ?_
      exact (ih next following).bind fun _ ↦ Sends.pure _

theorem sends_listJobs (hall : ∀ path, client.Carries P path) : Sends P (listJobs α client) := by
  have hfirst : Sends P (lift (Http.executeJson client.org.http pageDecoder
      (client.listingRequest (kind α))) : Session (JobPage Json)) :=
    (Sends.executeJson (hall _ _ rfl)).mapFailure _
  exact Sends.get.bind fun _ ↦ hfirst.bind fun first ↦
    sends_followPages (fun url ↦ sends_getJson (hall url) _) _ _ first

/-- The URL of a part of a job is one below the jobs of the org, as that of the job itself is. -/
theorem resourceUrl_eq_jobsUrl (client : Client) (family : JobKind) (id resource : String) :
    client.resourceUrl family id resource =
      client.org.jobsUrl (family.path ++ ("/" ++ Percent.encodeSegment id ++ "/" ++ resource)) := by
  simp only [resourceUrl, jobUrl, Org.jobsUrl, String.append_assoc, JobKind.trimStartChars_path]

section Jobs

variable (hjobs : ∀ path, client.Carries P (client.org.jobsUrl path))

include hjobs

theorem carries_resourceUrl (family : JobKind) (id resource : String) :
    client.Carries P (client.resourceUrl family id resource) := by
  rw [resourceUrl_eq_jobsUrl]
  exact hjobs _

theorem sends_ingestOutcome (delimiter : ColumnDelimiter) (job : IngestJob) :
    Sends P (client.ingestOutcome delimiter job) := by
  have hfetch : ∀ artifact, Sends P (client.fetchSet delimiter artifact job.id) :=
    fun artifact ↦ sends_fetchSet delimiter artifact (carries_resourceUrl hjobs .ingest job.id _)
  unfold ingestOutcome
  split_ifs
  · exact (hfetch .successful).bind fun _ ↦ (hfetch .failed).bind fun _ ↦
      (hfetch .unprocessed).bind fun _ ↦ Sends.pure _
  · exact Sends.pure _

theorem sends_runIngest (clock : Nat → Span) (draft : IngestDraft) (data : Octets) :
    Sends P (client.runIngest clock draft data) :=
  (sends_createIngestJob draft (hjobs _)).bind fun _ ↦
    (sends_uploadOrAbort data (carries_resourceUrl hjobs .ingest _ _) (hjobs _)).bind fun _ ↦
      (sends_closeJob (hjobs _)).bind fun _ ↦
        (sends_waitForJob clock (hjobs _)).bind fun job ↦ sends_ingestOutcome hjobs _ job

theorem sends_runQuery (clock : Nat → Span) (draft : QueryDraft) :
    Sends P (client.runQuery clock draft) := by
  refine (sends_createQueryJob draft (hjobs _)).bind fun _ ↦
    (sends_waitForJob clock (hjobs _)).bind fun job ↦ ?_
  split_ifs
  · exact (sends_allQueryResults (carries_resourceUrl hjobs .query job.id _)).bind
      fun _ ↦ Sends.pure _
  · exact Sends.pure _

end Jobs

end Client

end BulkJobs
