import BulkJobs.Proofs.Client.IngestAct
import BulkJobs.Proofs.Org.Length

/-!
# Uploads that cannot be built

At the sample org with another API version, the request of a step can be built exactly when the
version and the names below the jobs are short enough (`exists_prepare_withVersion_iff`). As the
URL for uploads is longer than that of the job, there are versions at which a job can be created and
aborted and nothing can be uploaded to it (`prepare_of_length`).

A run whose upload cannot be built aborts the job that it has created (`runIngest_of_unfit`), so the
upload is missing among what is sent (`methods_of_unfit`).
-/

set_option autoImplicit false
set_option relaxedAutoImplicit false

namespace BulkJobs

open Http (Delivery Traffic)

/-- A client of the sample org with another API version, which is part of the URL of every job. -/
def Client.withVersion (version : String) : Client :=
  { org := { Org.sample with apiVersion := version } }

theorem url_create (client : Client) (draft : IngestDraft) (data : Octets) :
    (IngestStep.create.request client draft data).url = client.org.url (client.kindUrl .ingest) :=
  rfl

theorem url_abort (client : Client) (draft : IngestDraft) (data : Octets) (id : String) :
    ((IngestStep.abort id).request client draft data).url =
      client.org.url (client.jobUrl .ingest id) :=
  rfl

theorem url_upload (client : Client) (draft : IngestDraft) (data : Octets) (id : String) :
    ((IngestStep.upload id).request client draft data).url =
      client.org.url (client.resourceUrl .ingest id "batches") :=
  rfl

theorem isSome_ownHeaders? (version : String) (draft : IngestDraft) (data : Octets)
    (step : IngestStep) :
    ((step.request (.withVersion version) draft data).ownHeaders? none).isSome := by
  have hheaders : ∀ headers ∈ [[], [("Content-Type", "application/json")],
      [("Content-Type", "text/csv")], [("Accept", "text/csv")]],
      (([("Authorization", "Bearer t")] ++ headers).mapM fun (name, value) ↦
        Http.Header.make? name value).isSome := by
    decide +kernel
  cases step with
  | create | close id | abort id => exact hheaders [("Content-Type", "application/json")] (by simp)
  | upload id => exact hheaders [("Content-Type", "text/csv")] (by simp)
  | look id => exact hheaders [] (by simp)
  | fetch artifact id => exact hheaders [("Accept", "text/csv")] (by simp)

/-- The request of a step can be built exactly when API version and the names below the jobs
(`below`) are short enough for a request line to carry its URL. -/
theorem exists_prepare_withVersion_iff {version : String} (hversion : Url.IsPlainSegment version)
    (draft : IngestDraft) (data : Octets) {step : IngestStep} {path : String}
    {below : List String}
    (hurl : (step.request (.withVersion version) draft data).url =
      (Client.withVersion version).org.url ((Client.withVersion version).org.jobsUrl path))
    (hbelow : '/' :: (Text.trimStartChars ['/'] path).toList = (UrlPath.segments below).write)
    (hnames : below ⊆ ["ingest", "1", "batches"]) (config : Http.Config) :
    (∃ message, (step.request (.withVersion version) draft data).prepare config = .ok message) ↔
      version.toList.length + (UrlPath.segments below).write.length ≤ 65501 := by
  have hplain : ∀ part ∈ ["ingest", "1", "batches"], Url.IsPlainSegment part := by
    decide +kernel
  have hkept : ∀ part ∈ ["ingest", "1", "batches"],
      Url.isDoubleDot part = false ∧ Url.isSingleDot part = false := by
    decide +kernel
  have hinstance : (Client.withVersion version).org.instanceUrl = Org.sample.instanceUrl := rfl
  have hquery : (step.request (.withVersion version) draft data).query = [] := by
    cases step <;> rfl
  exact Org.exists_prepare_jobs_iff hinstance hversion hbelow
    (fun part hpart ↦ hplain part (hnames hpart)) (fun part hpart ↦ hkept part (hnames hpart))
    hurl hquery (isSome_ownHeaders? version draft data step) config

/-- The URL of what is uploaded to a job is eight bytes longer than that of the job, so there are
API versions at which the job can be created and aborted and nothing can be uploaded to it. -/
theorem prepare_of_length {version : String} (hversion : Url.IsPlainSegment version)
    (hlength : version.toList.length = 65490) (draft : IngestDraft) (data : Octets)
    (config : Http.Config) :
    (∃ message, (IngestStep.create.request (.withVersion version) draft data).prepare config =
        .ok message) ∧
      (∃ message, ((IngestStep.abort "1").request (.withVersion version) draft data).prepare
        config = .ok message) ∧
      ∃ problem, ((IngestStep.upload "1").request (.withVersion version) draft data).prepare
        config = .error problem := by
  have hfamily : '/' :: (Text.trimStartChars ['/'] "ingest").toList =
      (UrlPath.segments ["ingest"]).write := by decide +kernel
  have hjob : '/' :: (Text.trimStartChars ['/'] "ingest/1").toList =
      (UrlPath.segments ["ingest", "1"]).write := by decide +kernel
  have hbatches : '/' :: (Text.trimStartChars ['/'] "ingest/1/batches").toList =
      (UrlPath.segments ["ingest", "1", "batches"]).write := by decide +kernel
  have hid : JobKind.ingest.path ++ "/" ++ Percent.encodeSegment "1" = "ingest/1" := by
    decide +kernel
  have hpart : (Client.withVersion version).resourceUrl .ingest "1" "batches" =
      (Client.withVersion version).org.jobsUrl "ingest/1/batches" := by
    have htrim : Text.trimStartChars ['/'] "ingest/1" ++ ("/" ++ "batches") =
        Text.trimStartChars ['/'] "ingest/1/batches" := by decide +kernel
    rw [Client.resourceUrl, Client.jobUrl, hid, Org.jobsUrl, Org.jobsUrl, ← htrim]
    simp only [String.append_assoc]
  have hlengths : (UrlPath.segments ["ingest"]).write.length = 7 ∧
      (UrlPath.segments ["ingest", "1"]).write.length = 9 ∧
        (UrlPath.segments ["ingest", "1", "batches"]).write.length = 17 := by
    decide +kernel
  refine ⟨?_, ?_, ?_⟩
  · have hurl := url_create (.withVersion version) draft data
    rw [Client.kindUrl, show JobKind.ingest.path = "ingest" from rfl] at hurl
    refine (exists_prepare_withVersion_iff hversion draft data hurl hfamily (by simp) config).mpr ?_
    rw [hlength, hlengths.1]
    decide
  · have hurl := url_abort (.withVersion version) draft data "1"
    rw [Client.jobUrl, hid] at hurl
    refine (exists_prepare_withVersion_iff hversion draft data hurl hjob (by simp) config).mpr ?_
    rw [hlength, hlengths.2.1]
    decide
  · have hurl := url_upload (.withVersion version) draft data "1"
    rw [hpart] at hurl
    have hiff := exists_prepare_withVersion_iff hversion draft data hurl hbatches (by simp) config
    rw [hlength, hlengths.2.2] at hiff
    cases hprepare : ((IngestStep.upload "1").request (.withVersion version) draft data).prepare
        config with
    | error problem => exact ⟨problem, rfl⟩
    | ok message => exact absurd (hiff.mp ⟨message, hprepare⟩) (by decide)

/-- With a long API version (`hlength`) no request for a family of jobs can be built, whatever it is
to do there. -/
theorem prepare_kindUrl_of_length {version : String} (hversion : Url.IsPlainSegment version)
    (hlength : 65501 < version.toList.length) (family : JobKind) {request : Http.Request}
    (hurl : request.url =
      (Client.withVersion version).org.url ((Client.withVersion version).kindUrl family))
    (config : Http.Config) : ∃ failure, request.prepare config = .error failure := by
  have hpath : '/' :: (Text.trimStartChars ['/'] family.path).toList =
      (UrlPath.segments [family.path]).write := by
    cases family <;> decide +kernel
  have hplain : ∀ part ∈ [family.path], Url.IsPlainSegment part := by
    cases family <;> decide +kernel
  have hkept : ∀ part ∈ [family.path],
      Url.isDoubleDot part = false ∧ Url.isSingleDot part = false := by
    cases family <;> decide +kernel
  have hinstance : (Client.withVersion version).org.instanceUrl = Org.sample.instanceUrl := rfl
  exact Org.prepare_jobs_of_too_long hinstance hversion hlength hpath hplain hkept hurl config

/-! ### A run without its upload -/

namespace Client

/-- A run whose upload cannot be built, but whose job is created and its abort answered, goes from
the creation of the job to its abort and sends nothing in between. -/
theorem runIngest_of_unfit {client : Client} {draft : IngestDraft} {data : Octets}
    {traffic first : Traffic} {created : IngestJob} {problem : Http.Failure}
    (hcreate : client.createIngestJob draft traffic = (.ok created, first))
    (hupload : ((IngestStep.upload created.id).request client draft data).prepare client.org.http =
      .error problem) (clock : Nat → Span) :
    client.runIngest clock draft data traffic =
      (.error (.ofHttp problem), (abortJob IngestJob client created.id first).2) := by
  have hfailed : client.upload created.id data first = (.error (.ofHttp problem), first) := by
    have hnext : ∀ (response : Http.Response) traffic,
        (pure () : Session Unit) traffic = ((fun _ ↦ .ok ()) response, traffic) :=
      fun _ _ ↦ rfl
    have hrun : client.upload created.id data first =
        (((Http.execute client.org.http ((IngestStep.upload created.id).request client draft data)
            first).1.mapError Failure.ofHttp).bind fun _ ↦ .ok (),
          (Http.execute client.org.http ((IngestStep.upload created.id).request client draft data)
            first).2) :=
      lift_execute_bind hnext _ first
    rw [hrun, Http.execute_of_error hupload first]
    rfl
  have habort : client.uploadOrAbort created.id data first =
      (.error (.ofHttp problem), (abortJob IngestJob client created.id first).2) := by
    unfold uploadOrAbort
    rw [Http.Exchange.bind_of_ok (Http.Exchange.attempt_of_run hfailed)]
    cases hrun : abortJob IngestJob client created.id first with
    | mk aborted after =>
      simp only
      rw [Http.Exchange.bind_of_ok (Http.Exchange.attempt_of_run hrun)]
      rfl
  rw [runIngest, Http.Exchange.bind_of_ok hcreate, Http.Exchange.bind_of_error habort]

end Client

/-- Whether a reply is for anyone, arrives in full, leads nowhere else, and shows a job. -/
structure Shows (reply : Http.Reply) (job : IngestJob) : Prop where
  anyone : reply.only = none
  success : 200 ≤ reply.status ∧ reply.status ≤ 299
  whole : reply.fault = none
  decodes : Json.decodeText IngestJob.decode reply.carriedBody = .ok job

/-- A request that can be built (`hprepare`) reads the job that the next reply shows (`hshows`), and
its message is all that is sent. -/
theorem Shows.executeJson {reply : Http.Reply} {job : IngestJob} (hshows : Shows reply job)
    {client : Client} {request : Http.Request} {message : Http.Message}
    (hprepare : request.prepare client.org.http = .ok message) (replies : List Http.Reply)
    (sent : List Http.Message) :
    Client.lift (Http.executeJson client.org.http IngestJob.decode request)
        ⟨true, reply :: replies, sent⟩ =
      (.ok job, ⟨true, replies, sent ++ [message]⟩) := by
  have hanswer : Delivery.answer ⟨message, [], reply⟩ = .ok (Delivery.whole ⟨message, [], reply⟩) :=
    Delivery.answer_of_success hshows.success hshows.whole
  have hread : (Delivery.whole ⟨message, [], reply⟩).readJson IngestJob.decode = .ok job :=
    Http.readJson_of_decode rfl hshows.decodes
  have hfor : reply.isFor message = true := by rw [Http.Reply.isFor, hshows.anyone]
  have hsent : reply.isRefused = false := by
    rw [Http.Reply.isRefused, hshows.whole]
    rfl
  rw [Client.lift_executeJson, Http.execute_of_reply hprepare hfor
    (Http.Reply.isFinal_of_success hshows.success) hsent, hanswer]
  simp only [Except.mapError, Except.bind, hread]

/-- Where a job can be created and aborted and nothing can be uploaded to it, the upload is missing
among what is sent. -/
theorem methods_of_unfit {client : Client} {draft : IngestDraft} {data : Octets}
    {reply : Http.Reply} {job : IngestJob} (hshows : Shows reply job)
    (hvalid : draft.validate = .ok ())
    (hcreate : ∃ message, (IngestStep.create.request client draft data).prepare client.org.http =
      .ok message)
    (habort : ∃ message, ((IngestStep.abort job.id).request client draft data).prepare
      client.org.http = .ok message)
    (hupload : ∃ problem, ((IngestStep.upload job.id).request client draft data).prepare
      client.org.http = .error problem) (clock : Nat → Span) :
    (client.runIngest clock draft data { replies := [reply, reply] }).2.sent.map (·.method) =
      [.post, .patch] := by
  obtain ⟨first, hfirst⟩ := hcreate
  obtain ⟨second, hsecond⟩ := habort
  obtain ⟨problem, hproblem⟩ := hupload
  have hcreated : client.createIngestJob draft { replies := [reply, reply] } =
      (.ok job, ⟨true, [reply], [first]⟩) := by
    unfold Client.createIngestJob
    rw [Http.Exchange.ofExcept_bind_of_ok hvalid]
    exact hshows.executeJson hfirst [reply] []
  have haborted : Client.abortJob IngestJob client job.id ⟨true, [reply], [first]⟩ =
      (.ok job, ⟨true, [], [first, second]⟩) := by
    have hask : Client.requestAbort IngestJob client job.id ⟨true, [reply], [first]⟩ =
        (.ok job, ⟨true, [], [first, second]⟩) :=
      hshows.executeJson hsecond [] [first]
    unfold Client.abortJob
    rw [Http.Exchange.bind_of_ok (Http.Exchange.attempt_of_run hask)]
    rfl
  rw [client.runIngest_of_unfit hcreated hproblem, haborted]
  simp only [List.map_cons, List.map_nil, Http.Request.method_of_prepare hfirst,
    Http.Request.method_of_prepare hsecond]
  rfl

def IngestDraft.sample : IngestDraft :=
  { object := "Account", operation := .insert }

def jobReply : Http.Reply :=
  { body := Utf8.encode
      "\x7b\"id\":\"1\",\"state\":\"Open\",\"object\":\"Account\",\"operation\":\"insert\"\x7d" }

theorem jobReply_shows : ∃ job, Shows jobReply job ∧ job.id = "1" := by
  have hsome : (Json.decodeText IngestJob.decode jobReply.carriedBody).toOption.map (·.id) =
      some "1" := by
    decide +kernel
  generalize hread : Json.decodeText IngestJob.decode jobReply.carriedBody = decoded at hsome
  cases decoded with
  | error problem => cases hsome
  | ok job => exact ⟨job, ⟨rfl, ⟨by decide, by decide⟩, rfl, hread⟩, Option.some.inj hsome⟩

end BulkJobs
