import BulkJobs.Proofs.Client.Abort
import BulkJobs.Proofs.Client.Addressing
import BulkJobs.Proofs.Client.ResultDelimiter

/-!
# The job that a run keeps to

An errand is a request for a job, or for a part of one, that was delivered. Behind the creation of
its job a run has errands only (`RunLog`): first those for the job that was created, and then those
for the result. The latter are for the job that the last look has shown complete, and nothing
compares its id with that of the job that was created (`FollowsCreation`). So a run keeps to one job
exactly when no result is asked for, or the last look shows the id of that job
(`FollowsCreation.keeps_iff`, `runs_keep_to_job_iff`).
-/

set_option autoImplicit false
set_option relaxedAutoImplicit false

namespace BulkJobs

open JobSnapshot (kind)
open Http (Attempt Delivery Received Traffic)

/-- Whether a target is the result of a job, or a part of it: an artifact of an ingest job, or the
results of a query job. -/
def JobTarget.isResult (target : JobTarget) : Bool :=
  match target.part with
  | some (.artifact _) | some .results => true
  | some .batches | none => false

/-- A request for a job, or for a part of one, that was delivered: what it was for, and its
delivery. -/
structure Errand where
  target : JobTarget
  delivery : Delivery

/-- Whether the message of an errand is what a request at the URL of its target becomes, so that the
errand is addressed to the job that it is said to be for. -/
def Errand.IsAddressed (client : Client) (errand : Errand) : Prop :=
  ∃ request : Http.Request, request.url = client.org.url (errand.target.url client) ∧
    request.prepare client.org.http = .ok errand.delivery.message

/-! ### Shown values -/

namespace Http.Delivery.Shows

variable {β : Type} {decode : Json.Decoder β} {delivery : Delivery} {value : β}

/-- What is read as JSON from the answer to a delivery (`hread`) was shown by the delivery. -/
theorem of_answer {response : Http.Response} (hanswer : delivery.answer = .ok response)
    (hread : (response.readJson decode).mapError Failure.ofHttp = .ok value) :
    delivery.Shows decode value := by
  rw [← read_eq_ok_iff, read, hanswer]
  exact mapError_eq_ok_iff.mp hread

end Http.Delivery.Shows

/-! ### What follows the creation of a job -/

section Following

variable {α : Type} [JobSnapshot α]

/-- Whether errands follow the creation of a job: its own errands, of which the last one shows the
job whose result the other errands ask for, if there are any. -/
structure FollowsCreation (client : Client) (created : α) (own results : List Errand) : Prop where
  addressed : ∀ errand ∈ own ++ results,
    errand.target.kind = kind α ∧ errand.IsAddressed client
  keeps : ∀ errand ∈ own,
    errand.target.id = JobSnapshot.id created ∧ errand.target.isResult = false
  asked : ∀ errand ∈ results, errand.target.isResult = true
  shown : results ≠ [] → ∃ before look, ∃ job : α, own = before ++ [look] ∧
    look.target = ⟨kind α, JobSnapshot.id created, none⟩ ∧
    look.delivery.Shows JobSnapshot.decode job ∧
    (JobSnapshot.state job).isSuccess = true ∧
    ∀ errand ∈ results, errand.target.id = JobSnapshot.id job

/-- Errands keep to the job that was created unless there are some for the result, and the last of
the others shows another id. These are the only ones for which the id is taken from a reply. -/
theorem FollowsCreation.keeps_iff {client : Client} {created : α} {own results : List Errand}
    (h : FollowsCreation client created own results) :
    (∀ errand ∈ own ++ results, errand.target.id = JobSnapshot.id created) ↔
      results = [] ∨ ∃ look, ∃ job : α, own.getLast? = some look ∧
        look.delivery.Shows JobSnapshot.decode job ∧
        JobSnapshot.id job = JobSnapshot.id created := by
  rcases eq_or_ne results [] with rfl | hsome
  · simpa using fun errand herrand ↦ (h.keeps errand herrand).1
  obtain ⟨before, look, job, rfl, -, hshows, -, hid⟩ := h.shown hsome
  have hlast : (before ++ [look]).getLast? = some look := List.getLast?_concat
  constructor
  · intro hall
    obtain ⟨errand, herrand⟩ := List.exists_mem_of_ne_nil results hsome
    refine .inr ⟨look, job, hlast, hshows, ?_⟩
    rw [← hid errand herrand]
    exact hall errand (List.mem_append_right _ herrand)
  · rintro (hnone | ⟨look', job', hlast', hshows', hsame⟩)
    · exact absurd hnone hsome
    rw [hlast] at hlast'
    cases hlast'
    intro errand herrand
    rcases List.mem_append.mp herrand with hown | hresult
    · exact (h.keeps errand hown).1
    · rw [hid errand hresult, hshows.unique hshows', hsame]

/-- Whether a delivery is that of the request for the creation of a job from a draft with this
body. -/
def IsCreation (α : Type) [JobSnapshot α] (client : Client) (body : Json) (create : Delivery) :
    Prop :=
  ((client.org.request .post (client.kindUrl (kind α))).withJson body).prepare client.org.http =
    .ok create.message

/-- Whether deliveries are those of a run for a job with this body: none, or the creation of a job
(`IsCreation`) and what follows it (`FollowsCreation`). What follows is addressed to the id that the
reply to the creation shows, but for the result, which is asked for under the id that the last look
shows; so all of it keeps to the job that was created exactly when no result is asked for or the
last look shows the id of that job. -/
def RunLog (α : Type) [JobSnapshot α] (client : Client) (body : Json)
    (received : List Delivery) : Prop :=
  received = [] ∨ ∃ create, IsCreation α client body create ∧
    (received = [create] ∨ ∃ created : α, ∃ own results,
      create.Shows JobSnapshot.decode created ∧
      received = create :: (own ++ results).map (·.delivery) ∧
      FollowsCreation client created own results ∧
      ((∀ errand ∈ own ++ results, errand.target.id = JobSnapshot.id created) ↔
        results = [] ∨ ∃ look, ∃ job : α, own.getLast? = some look ∧
          look.delivery.Shows JobSnapshot.decode job ∧
          JobSnapshot.id job = JobSnapshot.id created))

namespace RunLog

variable {client : Client} {body : Json}

/-- A run that ends with the creation, whether its request was sent or not, has a log with nothing
behind the creation (`hcreate`). -/
theorem uncreated {delivery : Option Delivery}
    (hcreate : ∀ create, delivery = some create → IsCreation α client body create) :
    RunLog α client body delivery.toList := by
  cases delivery with
  | none => exact .inl rfl
  | some create => exact .inr ⟨create, hcreate create rfl, .inl rfl⟩

theorem created {create : Delivery} {created : α} {own results : List Errand}
    (hcreate : IsCreation α client body create)
    (hshows : create.Shows JobSnapshot.decode created)
    (hfollows : FollowsCreation client created own results) :
    RunLog α client body (create :: (own ++ results).map (·.delivery)) :=
  .inr ⟨create, hcreate, .inr ⟨created, own, results, hshows, rfl, hfollows, hfollows.keeps_iff⟩⟩

end RunLog

end Following

/-! ### Runs of ingest jobs -/

/-- The job, or the part of one, that a step is about. The creation is about none yet. -/
def IngestStep.target? : IngestStep → Option JobTarget
  | create => none
  | upload id => some ⟨.ingest, id, some .batches⟩
  | close id => some ⟨.ingest, id, none⟩
  | abort id => some ⟨.ingest, id, none⟩
  | look id => some ⟨.ingest, id, none⟩
  | fetch artifact id => some ⟨.ingest, id, some (.artifact artifact)⟩

theorem IngestStep.request_url {step : IngestStep} {target : JobTarget} (client : Client)
    (draft : IngestDraft) (data : Octets) (htarget : step.target? = some target) :
    target.kind = .ingest ∧
      (step.request client draft data).url = client.org.url (target.url client) := by
  cases step <;> cases htarget <;>
    simp only [request, Org.request, Http.Request.authorized, Http.Request.withCsv,
      Http.Request.withBytes, Http.Request.withJson, Http.Request.acceptingCsv,
      Http.Request.withHeader, JobTarget.url, JobPart.path, and_self]

namespace IngestAct

variable {client : Client} {draft : IngestDraft} {data : Octets} {id : String} {act : IngestAct}
  {acts : List IngestAct} {errand : Errand} {traffic traffic' : Traffic}

/-- Whether an act is about the job of an id, and about its result or not, as its step says. -/
def IsAbout (id : String) (isResult : Bool) (act : IngestAct) : Prop :=
  ∃ target, act.step.target? = some target ∧ target.id = id ∧ target.isResult = isResult

/-- The errand of an act, if its step is about a job and its request was delivered. -/
def errand? (act : IngestAct) : Option Errand :=
  act.step.target?.bind fun target ↦ act.delivery.map fun delivery ↦ ⟨target, delivery⟩

theorem errand?_of_target? {target : JobTarget} (htarget : act.step.target? = some target) :
    act.errand? = act.delivery.map fun delivery ↦ ⟨target, delivery⟩ := by
  rw [errand?, htarget]
  rfl

theorem Happens.isAddressed (hact : act.Happens client draft data traffic traffic')
    (herrand : act.errand? = some errand) :
    errand.target.kind = .ingest ∧ errand.IsAddressed client := by
  obtain ⟨target, htarget, delivery, hdelivery, rfl⟩ :
      ∃ target, act.step.target? = some target ∧ ∃ delivery, act.delivery = some delivery ∧
        ⟨target, delivery⟩ = errand := by
    simpa [errand?, Option.bind_eq_some_iff] using herrand
  obtain ⟨hkind, hurl⟩ := IngestStep.request_url client draft data htarget
  obtain ⟨hprepare, -⟩ := hact.of_delivery hdelivery
  exact ⟨hkind, _, hurl, hprepare⟩

/-- An act that reads a job (`hread`, `hjob`) was delivered, and the answer shows the job. -/
theorem Happens.exists_shows {job : IngestJob}
    (hact : act.Happens client draft data traffic traffic')
    (hjob : act.result = .ok (.job job))
    (hread : ∀ response, act.step.read draft.columnDelimiter response =
      ((response.readJson IngestJob.decode).mapError Failure.ofHttp).map .job) :
    ∃ delivery, act.delivery = some delivery ∧ delivery.Shows IngestJob.decode job := by
  obtain ⟨⟨delivery, response, hdelivery, hanswer, hshown⟩, -⟩ := hact.of_ok hjob
  refine ⟨delivery, hdelivery, ?_⟩
  rw [hread] at hshown
  cases hjson : (response.readJson IngestJob.decode).mapError Failure.ofHttp with
  | error failure =>
    rw [hjson] at hshown
    cases hshown
  | ok shown =>
    rw [hjson] at hshown
    cases hshown
    exact .of_answer hanswer hjson

theorem target_of_isAbout {isResult : Bool} (habout : ∀ act ∈ acts, act.IsAbout id isResult)
    (herrand : errand ∈ acts.filterMap (·.errand?)) :
    errand.target.id = id ∧ errand.target.isResult = isResult := by
  obtain ⟨act, hact, hsome⟩ := List.mem_filterMap.mp herrand
  obtain ⟨target, htarget, hid, hresult⟩ := habout act hact
  rw [errand?_of_target? htarget, Option.map_eq_some_iff] at hsome
  obtain ⟨delivery, -, rfl⟩ := hsome
  exact ⟨hid, hresult⟩

theorem IsAbout.isSome_target? {isResult : Bool} (habout : act.IsAbout id isResult) :
    act.step.target?.isSome := by
  obtain ⟨target, htarget, -⟩ := habout
  exact Option.isSome_iff_exists.mpr ⟨target, htarget⟩

/-- The deliveries of acts that are all about jobs (`habout`) are those of their errands, so no
delivery is left out of the log. -/
theorem filterMap_delivery (habout : ∀ act ∈ acts, act.step.target?.isSome) :
    acts.filterMap (·.delivery) = (acts.filterMap (·.errand?)).map (·.delivery) := by
  rw [List.map_filterMap]
  refine List.filterMap_congr fun act hact ↦ ?_
  obtain ⟨target, htarget⟩ := Option.isSome_iff_exists.mp (habout act hact)
  rw [errand?_of_target? htarget, Option.map_map]
  exact Option.map_id'.symm

end IngestAct

theorem Recorded.received {client : Client} {draft : IngestDraft} {data : Octets}
    {traffic traffic' : Traffic} {acts : List IngestAct}
    (hacts : Recorded client draft data traffic acts traffic') :
    Received traffic (acts.filterMap (·.delivery)) traffic' := by
  induction hacts with
  | nil traffic => exact .nil traffic
  | @cons _ _ _ act acts hact hrest ih =>
    obtain ⟨answer, ⟨-, hreceived⟩, -⟩ := hact
    rw [List.filterMap_eq_flatMap_toList, List.flatMap_cons, ← List.filterMap_eq_flatMap_toList]
    exact hreceived.append ih

theorem Looks.isAbout {polling : Polling} {clock : Nat → Span} {id : String} {number : Nat}
    {acts : List IngestAct} {result : Except Failure IngestJob}
    (h : Looks polling clock id number acts result) : ∀ act ∈ acts, act.IsAbout id false := by
  induction h with
  | last hverdict => exact List.forall_mem_singleton.mpr ⟨_, rfl, rfl, rfl⟩
  | again hverdict hrest ih => exact List.forall_mem_cons.mpr ⟨⟨_, rfl, rfl, rfl⟩, ih⟩

theorem Aborting.isAbout {id : String} {acts : List IngestAct} (h : Aborting id acts) :
    ∀ act ∈ acts, act.IsAbout id false := by
  cases h with
  | settled hstatus => exact List.forall_mem_singleton.mpr ⟨_, rfl, rfl, rfl⟩
  | reread hstatus =>
    exact List.forall_mem_cons.mpr
      ⟨⟨_, rfl, rfl, rfl⟩, List.forall_mem_singleton.mpr ⟨_, rfl, rfl, rfl⟩⟩

theorem Fetches.isAbout {job : IngestJob} {acts : List IngestAct}
    {result : Except Failure IngestOutcome} (h : Fetches job acts result) :
    ∀ act ∈ acts, act.IsAbout job.id true := by
  intro act hact
  have hstep := h.isPrefix_steps.subset (List.mem_map_of_mem hact)
  simp only [List.mem_cons, List.not_mem_nil, or_false] at hstep
  rcases hstep with hstep | hstep | hstep <;> exact ⟨_, by rw [hstep]; rfl, rfl, rfl⟩

theorem Fetches.isSuccess {job : IngestJob} {acts : List IngestAct}
    {result : Except Failure IngestOutcome} (h : Fetches job acts result) (hsome : acts ≠ []) :
    job.state.isSuccess = true := by
  cases h with
  | skipped hdone => exact absurd rfl hsome
  | first hdone | second hdone | third hdone | all hdone => exact hdone

/-- The acts behind the creation of a job are about that job, and those for the artifacts about the
job that the act before them shows. -/
theorem Lifecycle.isAbout {polling : Polling} {clock : Nat → Span} {draft : IngestDraft}
    {acts : List IngestAct} {result : Except Failure IngestOutcome}
    (h : Lifecycle polling clock draft acts result) :
    acts = [] ∨ (∃ delivery failure, acts = [⟨.create, delivery, .error failure⟩]) ∨
      ∃ delivery created own fetches,
        acts = ⟨.create, delivery, .ok (.job created)⟩ :: (own ++ fetches) ∧
        (∀ act ∈ own, act.IsAbout created.id false) ∧ (fetches ≠ [] → ∃ before delivery' job,
          own = before ++ [⟨.look created.id, delivery', .ok (.job job)⟩] ∧
          job.state.isSuccess = true ∧ ∀ act ∈ fetches, act.IsAbout job.id true) := by
  cases h with
  | refused hfailed => exact .inl rfl
  | uncreated => exact .inr (.inl ⟨_, _, rfl⟩)
  | aborted haborting =>
    refine .inr (.inr ⟨_, _, _, [], by rw [List.append_nil], ?_, fun hsome ↦ absurd rfl hsome⟩)
    exact List.forall_mem_cons.mpr ⟨⟨_, rfl, rfl, rfl⟩, haborting.isAbout⟩
  | unclosed =>
    refine .inr (.inr ⟨_, _, _, [], by rw [List.append_nil], ?_, fun hsome ↦ absurd rfl hsome⟩)
    exact List.forall_mem_cons.mpr
      ⟨⟨_, rfl, rfl, rfl⟩, List.forall_mem_singleton.mpr ⟨_, rfl, rfl, rfl⟩⟩
  | unfinished hlooks =>
    refine .inr (.inr ⟨_, _, _, [], by rw [List.append_nil], ?_, fun hsome ↦ absurd rfl hsome⟩)
    exact List.forall_mem_cons.mpr
      ⟨⟨_, rfl, rfl, rfl⟩, List.forall_mem_cons.mpr ⟨⟨_, rfl, rfl, rfl⟩, hlooks.isAbout⟩⟩
  | @finished _ delivery' delivery'' created closed job looks fetches _ hlooks hfetches =>
    refine .inr (.inr ⟨_, created, ⟨.upload created.id, delivery', .ok .nothing⟩ ::
      ⟨.close created.id, delivery'', .ok (.job closed)⟩ :: looks, fetches, rfl, ?_, ?_⟩)
    · exact List.forall_mem_cons.mpr
        ⟨⟨_, rfl, rfl, rfl⟩, List.forall_mem_cons.mpr ⟨⟨_, rfl, rfl, rfl⟩, hlooks.isAbout⟩⟩
    · intro hsome
      obtain ⟨-, before, delivery, rfl⟩ := hlooks.of_ok
      exact ⟨_ :: _ :: before, delivery, job, rfl, hfetches.isSuccess hsome, hfetches.isAbout⟩

/-- The errands of the acts behind the creation of a job follow it (`FollowsCreation`), when the
first of them are about the job (`hown`) and the others about the artifacts of the job that the last
look shows. -/
theorem followsCreation_ingest {client : Client} {draft : IngestDraft} {data : Octets}
    {created : IngestJob} {own fetches : List IngestAct} {traffic traffic' : Traffic}
    (hacts : Recorded client draft data traffic (own ++ fetches) traffic')
    (hown : ∀ act ∈ own, act.IsAbout created.id false)
    (hfetches : fetches ≠ [] → ∃ before delivery job,
      own = before ++ [⟨.look created.id, delivery, .ok (.job job)⟩] ∧
      job.state.isSuccess = true ∧ ∀ act ∈ fetches, act.IsAbout job.id true) :
    FollowsCreation client created (own.filterMap (·.errand?))
      (fetches.filterMap (·.errand?)) where
  addressed errand herrand := by
    rw [← List.filterMap_append] at herrand
    obtain ⟨act, hact, hsome⟩ := List.mem_filterMap.mp herrand
    obtain ⟨before, after, hhappens⟩ := hacts.happens hact
    exact hhappens.isAddressed hsome
  keeps _ herrand := IngestAct.target_of_isAbout hown herrand
  asked errand herrand := by
    obtain ⟨act, hact, -⟩ := List.mem_filterMap.mp herrand
    obtain ⟨_, _, job, -, -, habout⟩ := hfetches (List.ne_nil_of_mem hact)
    exact (IngestAct.target_of_isAbout habout herrand).2
  shown hsome := by
    have hne : fetches ≠ [] := by
      rintro rfl
      exact hsome rfl
    obtain ⟨before, delivery, job, rfl, hdone, habout⟩ := hfetches hne
    have hmem : (⟨.look created.id, delivery, .ok (.job job)⟩ : IngestAct) ∈
        before ++ [⟨.look created.id, delivery, .ok (.job job)⟩] ++ fetches :=
      List.mem_append_left _ (List.mem_append_right _ (List.mem_singleton_self _))
    obtain ⟨_, _, hlook⟩ := hacts.happens hmem
    obtain ⟨sent, rfl, hshows⟩ := hlook.exists_shows rfl fun _ ↦ rfl
    refine ⟨before.filterMap (·.errand?), ⟨⟨.ingest, created.id, none⟩, sent⟩, job, ?_, rfl,
      hshows, hdone, fun _ herrand ↦ (IngestAct.target_of_isAbout habout herrand).1⟩
    rw [List.filterMap_append]
    rfl

theorem Client.runIngest_log (client : Client) (clock : Nat → Span) (draft : IngestDraft)
    (data : Octets) (traffic : Traffic) : ∃ received,
      Received traffic received (client.runIngest clock draft data traffic).2 ∧
        RunLog IngestJob client draft.encode received := by
  obtain ⟨acts, hacts, hlife⟩ := client.runIngest_account clock draft data traffic
  refine ⟨_, hacts.received, ?_⟩
  rcases hlife.isAbout with rfl | ⟨delivery, failure, rfl⟩ |
    ⟨delivery, created, own, fetches, rfl, hown, hfetches⟩
  · exact .inl rfl
  · cases hacts with
    | cons hcreate hrest =>
      have hlog : RunLog IngestJob client draft.encode delivery.toList :=
        .uncreated fun create hsent ↦ (hcreate.of_delivery hsent).1
      cases delivery <;> exact hlog
  · cases hacts with
    | cons hcreate hrest =>
      obtain ⟨create, rfl, hshows⟩ := hcreate.exists_shows rfl fun _ ↦ rfl
      have hfirst : IsCreation IngestJob client draft.encode create := (hcreate.of_delivery rfl).1
      have hlog := RunLog.created hfirst hshows (followsCreation_ingest hrest hown hfetches)
      have hdeliveries : (own ++ fetches).filterMap (·.delivery) =
          (own.filterMap (·.errand?) ++ fetches.filterMap (·.errand?)).map (·.delivery) := by
        rw [← List.filterMap_append]
        refine IngestAct.filterMap_delivery fun act hact ↦ ?_
        rcases List.mem_append.mp hact with hact | hact
        · exact (hown act hact).isSome_target?
        · obtain ⟨_, _, job, -, -, habout⟩ := hfetches (List.ne_nil_of_mem hact)
          exact (habout act hact).isSome_target?
      rw [← hdeliveries] at hlog
      exact hlog

/-! ### Runs of query jobs -/

namespace PageAct

variable {σ π : Type}

/-- The errand of a request for a page at the URL of a target, if it was delivered. -/
def errand? (target : JobTarget) (act : PageAct σ π) : Option Errand :=
  act.delivery.map fun delivery ↦ ⟨target, delivery⟩

/-- A page that shows a query job (`hpage`) was delivered, and the answer shows the job. -/
theorem Fits.exists_shows {paging : Paging σ QueryJob} {act : PageAct σ QueryJob} {job : QueryJob}
    (hact : act.Fits paging) (hpage : act.page = .ok job)
    (hread : ∀ response, paging.read response =
      (response.readJson QueryJob.decode).mapError Failure.ofHttp) :
    ∃ delivery, act.delivery = some delivery ∧ delivery.Shows QueryJob.decode job := by
  obtain ⟨⟨delivery, response, hdelivery, hanswer, hshown⟩, -⟩ := hact.exists_delivery hpage
  rw [hread] at hshown
  exact ⟨delivery, hdelivery, .of_answer hanswer hshown⟩

end PageAct

section Trails

variable {σ π : Type} {paging : Paging σ π} {place : σ} {traffic traffic' : Traffic}
  {acts : List (PageAct σ π)} {client : Client} {target : JobTarget}

/-- What is received along a trail of pages are the errands for its target, one for each page whose
request could be built. -/
theorem Paging.Trail.received_errands (htrail : paging.Trail place traffic acts traffic')
    (target : JobTarget) :
    Received traffic ((acts.filterMap (·.errand? target)).map (·.delivery)) traffic' := by
  have hsame : acts.filterMap (·.delivery) =
      (acts.filterMap (·.errand? target)).map (·.delivery) := by
    rw [List.map_filterMap]
    refine List.filterMap_congr fun act _ ↦ ?_
    rw [PageAct.errand?, Option.map_map]
    exact Option.map_id'.symm
  exact hsame ▸ htrail.received

/-- Where all pages are at the URL of one target (`hurl`), the errands for them are addressed to
that target. -/
theorem Paging.Chain.isAddressed (hchain : paging.Chain place acts)
    (hconfig : paging.config = client.org.http)
    (hurl : ∀ place, (paging.request place).url = client.org.url (target.url client)) :
    ∀ errand ∈ acts.filterMap (·.errand? target),
      errand.target = target ∧ errand.IsAddressed client := by
  intro errand herrand
  obtain ⟨act, hact, hsome⟩ := List.mem_filterMap.mp herrand
  obtain ⟨delivery, hdelivery, rfl⟩ := Option.map_eq_some_iff.mp hsome
  obtain ⟨hprepare, -⟩ := (hchain.fits act hact).of_delivery hdelivery
  rw [hconfig] at hprepare
  exact ⟨rfl, _, hurl act.place, hprepare⟩

end Trails

section Queries

variable {client : Client} {clock : Nat → Span} {created job : QueryJob}
  {looks : List (PageAct Nat QueryJob)} {pages : List (PageAct (Option String) ResultPage)}
  {traffic traffic' traffic'' : Traffic}

theorem isAddressed_looks
    (hlooks : (client.looks QueryJob clock created.id).Trail 0 traffic looks traffic') :
    ∀ errand ∈ looks.filterMap (·.errand? ⟨.query, created.id, none⟩),
      errand.target = ⟨.query, created.id, none⟩ ∧ errand.IsAddressed client := by
  refine hlooks.chain.isAddressed rfl fun _ ↦ ?_
  simp only [Client.looks, Org.request, Http.Request.authorized, JobTarget.url]
  rfl

/-- A run that looks at its job and ends without asking for the result has errands for the job
alone. -/
theorem followsCreation_looks
    (hlooks : (client.looks QueryJob clock created.id).Trail 0 traffic looks traffic') :
    FollowsCreation client created (looks.filterMap (·.errand? ⟨.query, created.id, none⟩)) []
      where
  addressed errand herrand := by
    rw [List.append_nil] at herrand
    obtain ⟨htarget, haddressed⟩ := isAddressed_looks hlooks errand herrand
    exact ⟨by rw [htarget]; rfl, haddressed⟩
  keeps errand herrand := by
    rw [(isAddressed_looks hlooks errand herrand).1]
    exact ⟨rfl, rfl⟩
  asked _ herrand := absurd herrand List.not_mem_nil
  shown hsome := absurd rfl hsome

/-- A run that asks for its result behind its looks asks for that of the job that the last look
shows, under the id shown there. -/
theorem followsCreation_pages
    (hlooks : (client.looks QueryJob clock created.id).Trail 0 traffic looks traffic')
    (hdecides : Decides client clock created.id looks (.ok job))
    (hdone : job.state.isSuccess = true)
    (hpages : (client.resultPages job.id).Trail none traffic' pages traffic'') :
    FollowsCreation client created (looks.filterMap (·.errand? ⟨.query, created.id, none⟩))
      (pages.filterMap (·.errand? ⟨.query, job.id, some .results⟩)) := by
  have hresults : ∀ errand ∈ pages.filterMap (·.errand? ⟨.query, job.id, some .results⟩),
      errand.target = ⟨.query, job.id, some .results⟩ ∧ errand.IsAddressed client :=
    hpages.chain.isAddressed rfl fun locator ↦ Client.pageRequest_url client job.id locator none
  have hown := followsCreation_looks hlooks
  refine ⟨fun errand herrand ↦ ?_, hown.keeps, fun errand herrand ↦ ?_, fun _ ↦ ?_⟩
  · rcases List.mem_append.mp herrand with herrand | herrand
    · exact hown.addressed errand (List.mem_append_left _ herrand)
    · obtain ⟨htarget, haddressed⟩ := hresults errand herrand
      exact ⟨by rw [htarget]; rfl, haddressed⟩
  · rw [(hresults errand herrand).1]
    rfl
  · obtain ⟨before, act, rfl, hpage, -⟩ := hdecides.of_ok
    have hact := hlooks.chain.fits act
      (List.mem_append_right before (List.mem_singleton_self act))
    obtain ⟨delivery, hdelivery, hshows⟩ := hact.exists_shows hpage fun _ ↦ rfl
    refine ⟨before.filterMap (·.errand? ⟨.query, created.id, none⟩),
      ⟨⟨.query, created.id, none⟩, delivery⟩, job, ?_, rfl, hshows, hdone, ?_⟩
    · simp [PageAct.errand?, hdelivery]
    · intro errand herrand
      rw [(hresults errand herrand).1]
      rfl

end Queries

theorem QueryRun.exists_log {client : Client} {clock : Nat → Span} {draft : QueryDraft}
    {traffic traffic' : Traffic} {result : Except Failure QueryOutcome}
    (h : QueryRun client clock draft traffic result traffic') :
    ∃ received, Received traffic received traffic' ∧
      RunLog QueryJob client draft.encode received := by
  have hcreated {delivery : Option Delivery} {created : QueryJob} {first : Traffic}
      (hcreate : PageAct.Happens (client.creation draft) traffic ⟨(), delivery, .ok created⟩
        first) : ∃ create, Received traffic [create] first ∧
          IsCreation QueryJob client draft.encode create ∧
          create.Shows QueryJob.decode created := by
    obtain ⟨create, rfl, hshows⟩ := hcreate.fits.exists_shows rfl fun _ ↦ rfl
    exact ⟨create, hcreate.received, (hcreate.fits.of_delivery rfl).1, hshows⟩
  cases h with
  | refused hvalid => exact ⟨[], .nil traffic, .inl rfl⟩
  | uncreated hcreate =>
    exact ⟨_, hcreate.received, .uncreated fun create hsent ↦ (hcreate.fits.of_delivery hsent).1⟩
  | @unfinished _ created _ _ _ _ hcreate hlooks | @incomplete _ created _ _ _ _ hcreate hlooks =>
    obtain ⟨create, hfirst, hcreation, hshows⟩ := hcreated hcreate
    have hlog := RunLog.created hcreation hshows (followsCreation_looks hlooks)
    rw [List.append_nil] at hlog
    exact ⟨_, hfirst.append (hlooks.received_errands ⟨.query, created.id, none⟩), hlog⟩
  | @fetched _ created job _ _ _ _ _ hcreate hlooks hdecides hdone hpages =>
    obtain ⟨create, hfirst, hcreation, hshows⟩ := hcreated hcreate
    have hlog := RunLog.created hcreation hshows
      (followsCreation_pages hlooks hdecides hdone hpages)
    rw [List.map_append] at hlog
    exact ⟨_, hfirst.append ((hlooks.received_errands ⟨.query, created.id, none⟩).append
      (hpages.received_errands ⟨.query, job.id, some .results⟩)), hlog⟩

/-! ### Every run -/

/-- What any run delivers is the creation of its job and errands that follow it. They keep to the
job that was created exactly when no result is asked for, or the last look shows the id of that job.
-/
theorem runs_keep_to_job_iff (client : Client) (clock : Nat → Span) :
    (∀ draft data traffic, ∃ received,
      Received traffic received (client.runIngest clock draft data traffic).2 ∧
        RunLog IngestJob client draft.encode received) ∧
    ∀ draft traffic, ∃ received,
      Received traffic received (client.runQuery clock draft traffic).2 ∧
        RunLog QueryJob client draft.encode received :=
  ⟨fun draft data traffic ↦ client.runIngest_log clock draft data traffic,
    fun draft traffic ↦ (client.runQuery_account clock draft traffic).exists_log⟩

/-- Where the job `1` was created and the look that ends the waiting shows the job `2`, the result
of the job `2` is asked for. -/
theorem shown_job_is_fetched :
    (Client.runQuery { org := .sample } (fun _ ↦ .ofSeconds 0) .piped
        { replies := [queryReply "1" "UploadComplete" "",
            queryReply "2" "JobComplete" ""] }).2.sent.map (·.url.path) =
      [.segments (JobTarget.root ++ ["query"]),
        .segments (JobTarget.segments ⟨.query, "1", none⟩),
        .segments (JobTarget.segments ⟨.query, "2", some .results⟩)] := by
  decide +kernel

end BulkJobs
