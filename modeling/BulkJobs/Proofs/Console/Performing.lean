import BulkJobs.Console
import BulkJobs.Proofs.Client.Abort
import BulkJobs.Proofs.Client.Creation
import BulkJobs.Proofs.Client.IngestRun
import BulkJobs.Proofs.Client.Listing
import BulkJobs.Proofs.Client.QueryRun

/-!
# Commands that are carried out

Arguments ask for a command when they are its words (`Command.parse?_eq_some_iff`). What it means
that a command was carried out is said of what happened on the network (`Command.IsDone`), with no
word of what the program made of it: an ingest job was last seen complete and all three of its
artifacts were read as tables (`Ingested`); a query job was last seen complete and every page of its
result was read (`Queried`); the pages of both families of jobs were read to the last one, while the
two listings took turns (`Listed`); a job was shown (`Seen`); an abort was answered with the job, or
refused for a job that is seen to be aborted (`Aborted`); and a deletion was answered with success
(`Deleted`). From one state of the network on each of these can happen in one way only, so the
report of a command has no complaint exactly when the command was carried out (`perform_iff`). What
cannot be asked for is noticed before anything is sent (`perform_of_isUnfit`).
-/

set_option autoImplicit false
set_option relaxedAutoImplicit false

namespace BulkJobs.Console

open Http (Delivers Delivery Exchange Passed Process Received Traffic merged)

/-! ### Commands in words -/

namespace Command

/-- The arguments that ask for a command, as texts. -/
def words : Command → List String
  | ingest object file more => "ingest" :: object :: file :: more
  | query soql => ["query", soql]
  | jobs => ["jobs"]
  | status id => ["status", id]
  | abort id => ["abort", id]
  | delete id => ["delete", id]

theorem parse?_eq_some_iff {arguments : List String} {command : Command} :
    parse? arguments = some command ↔ arguments = command.words := by
  constructor
  · intro h
    unfold parse? at h
    split at h <;> cases h <;> rfl
  · rintro rfl
    cases command <;> rfl

theorem words_injective {command command' : Command} (h : command.words = command'.words) :
    command = command' :=
  Option.some.inj ((parse?_eq_some_iff.mpr rfl).symm.trans (parse?_eq_some_iff.mpr h))

end Command

/-- The operation that the arguments behind the file name, if they name one that is known. -/
def operation? : List String → Option Operation
  | [] => some .insert
  | name :: _ => Operation.ofName? name

/-- The draft of the job that the arguments of an ingest command ask for. -/
def ingestDraft (object : String) (operation : Operation) (more : List String) : IngestDraft :=
  { object, operation, externalIdField := more[1]? }

/-! ### Commands that are carried out -/

/-- Whether the acts of a run end with a look that shows the job of an outcome complete, and with
the three artifacts of the job read as the tables of the outcome. -/
def EndsComplete (acts : List IngestAct) (outcome : IngestOutcome) : Prop :=
  ∃ id looked delivery delivery' delivery'' job successful failed unprocessed,
    [⟨.look id, looked, .ok (.job job)⟩,
      ⟨.fetch .successful job.id, delivery, .ok (.table successful)⟩,
      ⟨.fetch .failed job.id, delivery', .ok (.table failed)⟩,
      ⟨.fetch .unprocessed job.id, delivery'', .ok (.table unprocessed)⟩] <:+ acts ∧
    outcome = ⟨job, some successful, some failed, some unprocessed⟩ ∧ job.state = .jobComplete

/-- Whether an ingest job is run to its end and its results are read: nothing is wrong with the
draft, and acts are recorded on the network (`Recorded`) that are a life of the job (`Lifecycle`)
and end with the results (`EndsComplete`). -/
def Ingested (client : Client) (clock : Nat → Span) (draft : IngestDraft) (data : Octets)
    (traffic : Traffic) : Prop :=
  draft.validate = .ok () ∧ ∃ acts outcome after, Recorded client draft data traffic acts after ∧
    Lifecycle client.polling clock draft acts (.ok outcome) ∧ EndsComplete acts outcome

/-- Whether a query job is run to its end and its result is read page by page: nothing is wrong with
the draft, and the creation, the looks of which the last one decides, and the pages from the first
to the last happen on the network one after another. -/
def Queried (client : Client) (clock : Nat → Span) (draft : QueryDraft) (traffic : Traffic)
    (pages : List ResultPage) : Prop :=
  draft.validate = .ok () ∧ ∃ delivery created first looks second job acts after,
    PageAct.Happens (client.creation draft) traffic ⟨(), delivery, .ok created⟩ first ∧
      (client.looks QueryJob clock created.id).Trail 0 first looks second ∧
      Decides client clock created.id looks (.ok job) ∧ job.state = .jobComplete ∧
      (client.resultPages job.id).Trail none second acts after ∧ acts.mapM (·.page) = .ok pages

/-- Whether all jobs are listed: two chains of pages are read to their ends, each page from a reply
to its own messages, and over the network go the messages of both chains, merged in the order of the
turns (`Http.merged`). -/
def Listed (client : Client) (turns : List Bool) (traffic : Traffic)
    (pages pages' : List (JobPage Json)) : Prop :=
  ∃ (acts acts' : List (PageAct ListingPlace (JobPage Json))) (after : Traffic),
    (client.listing .ingest).Chain .first acts ∧ (client.listing .query).Chain .first acts' ∧
      Passed traffic (merged turns (acts.flatMap (·.hops)) (acts'.flatMap (·.hops))) after ∧
      acts.mapM (·.page) = .ok pages ∧ acts'.mapM (·.page) = .ok pages'

/-- Whether a look at an ingest job from a state of the network on shows the job: the request for it
is delivered, and its last reply is a success that arrives in full and holds the job. -/
def Seen (client : Client) (id : String) (traffic : Traffic) (job : IngestJob) : Prop :=
  ∃ delivery after, Delivers client.org.http
      (client.org.request .get (client.jobUrl .ingest id)) traffic delivery after ∧
    delivery.Shows IngestJob.decode job

/-- Whether an ingest job is aborted: the request for that is answered with the job, or it is
refused for the state of the job, and a look behind it shows that the job is aborted. -/
def Aborted (client : Client) (id : String) (traffic : Traffic) (job : IngestJob) : Prop :=
  ∃ delivery after, Delivers client.org.http (client.abortRequest .ingest id) traffic delivery
      after ∧
    (delivery.Shows IngestJob.decode job ∨
      delivery.IsRefused ∧ Seen client id after job ∧ job.state = .aborted)

/-- Whether an ingest job is deleted: the request for that is delivered, and of a reply of success
at least the head arrives. -/
def Deleted (client : Client) (id : String) (traffic : Traffic) : Prop :=
  ∃ delivery after, Delivers client.org.http
      (client.org.request .delete (client.jobUrl .ingest id)) traffic delivery after ∧
    (200 ≤ delivery.reply.status ∧ delivery.reply.status ≤ 299) ∧ delivery.reply.arrives = true

namespace Command

variable (client : Client) (surroundings : Surroundings) (traffic : Traffic)

/-- Whether what a command asks for is done, said of what happens on the network, in the environment
and with the file of its arguments. -/
def IsDone : Command → Prop
  | ingest object file more => ∃ operation data, operation? more = some operation ∧
      surroundings.fileContent file = .ok data ∧
      Ingested client surroundings.clock (ingestDraft object operation more) data traffic
  | query soql => ∃ pages, Queried client surroundings.clock { query := soql } traffic pages
  | jobs => ∃ pages pages', Listed client surroundings.turns traffic pages pages'
  | status id => ∃ job, Seen client id traffic job
  | abort id => ∃ job, Aborted client id traffic job
  | delete id => Deleted client id traffic

/-- Whether a command cannot be carried out, whatever the network does: the name of its operation is
not known, its file cannot be read, or there is something wrong with what is asked for. -/
def IsUnfit : Command → Prop
  | ingest object file more => operation? more = none ∨
      (∃ reason, surroundings.fileContent file = .error reason) ∨
      ∃ operation failure, operation? more = some operation ∧
        (ingestDraft object operation more).validate = .error failure
  | query soql => ∃ failure, ({ query := soql } : QueryDraft).validate = .error failure
  | _ => False

end Command

/-! ### Runs that end well -/

section Runs

variable {client : Client} {clock : Nat → Span} {traffic : Traffic}

theorem endsComplete_of_lifecycle {draft : IngestDraft} {acts : List IngestAct}
    {outcome : IngestOutcome} (h : Lifecycle client.polling clock draft acts (.ok outcome))
    (hsuccess : outcome.isSuccess = true) : EndsComplete acts outcome := by
  obtain ⟨front, id, looks, fetches, job, rfl, hlooks, hfetches⟩ := h.of_ok
  obtain ⟨-, before, looked, rfl⟩ := hlooks.of_ok
  cases hfetches with
  | skipped hdone =>
    rw [IngestOutcome.isSuccess, hdone] at hsuccess
    cases hsuccess
  | @all first second third successful failed unprocessed hdone =>
    refine ⟨id, looked, first, second, third, job, successful, failed, unprocessed, ?_, rfl,
      beq_iff_eq.mp hdone⟩
    rw [List.append_assoc]
    exact (List.suffix_append before _).trans (List.suffix_append front _)

/-- An ingest job is run to its end and its results are read (`Ingested`) exactly when a run ends
with an outcome that is a success. -/
theorem ingested_iff {draft : IngestDraft} {data : Octets} :
    Ingested client clock draft data traffic ↔
      ∃ outcome, (client.runIngest clock draft data traffic).1 = .ok outcome ∧
        outcome.isSuccess = true := by
  obtain ⟨acts, hacts, hlife⟩ := client.runIngest_account clock draft data traffic
  constructor
  · rintro ⟨hvalid, others, outcome, _, hothers, hother, hends⟩
    refine ⟨outcome, hother.eq_of_ok hlife hvalid hothers hacts, ?_⟩
    obtain ⟨_, _, _, _, _, job, _, _, _, -, rfl, hstate⟩ := hends
    exact beq_iff_eq.mpr hstate
  · rintro ⟨outcome, hrun, hsuccess⟩
    rw [hrun] at hlife
    refine ⟨?_, acts, outcome, _, hacts, hlife, endsComplete_of_lifecycle hlife hsuccess⟩
    cases hvalid : draft.validate with
    | ok _ => rfl
    | error failure =>
      rw [Client.runIngest_of_invalid hvalid] at hrun
      cases hrun

/-- A run of a query job ends with a text exactly when the job is run to its end and all pages of
its result are read (`Queried`), and then the text is joined from these pages. -/
theorem queried_iff {draft : QueryDraft} {csv : String} :
    (∃ pages, Queried client clock draft traffic pages ∧ csv = joinPages (pages.map (·.csv))) ↔
      ∃ job, (client.runQuery clock draft traffic).1 = .ok ⟨job, some csv⟩ := by
  have haccount := client.runQuery_account clock draft traffic
  constructor
  · rintro ⟨pages, ⟨hvalid, _, _, _, _, _, job, _, _, hcreated, hlooks, hdecides, hstate, hpages,
      hread⟩, rfl⟩
    have hcomplete : job.state.isSuccess = true := beq_iff_eq.mpr hstate
    refine ⟨job, ?_⟩
    rw [haccount.eq_of_fetched hvalid hcreated hlooks hdecides hcomplete hpages, hread]
    rfl
  · rintro ⟨job, hrun⟩
    have hvalid : draft.validate = .ok () := by
      cases hvalid : draft.validate with
      | ok _ => rfl
      | error failure =>
        rw [Client.runQuery_of_invalid hvalid] at hrun
        cases hrun
    rw [hrun] at haccount
    generalize hresult : Except.ok _ = result at haccount
    generalize (client.runQuery clock draft traffic).2 = after at haccount
    cases haccount with
    | refused | uncreated | unfinished => cases hresult
    | incomplete => cases hresult
    | @fetched delivery created shown looks acts first second _ hcreated hlooks hdecides hcomplete
        hpages =>
      cases hread : acts.mapM (·.page) with
      | error failure =>
        rw [hread] at hresult
        cases hresult
      | ok pages =>
        rw [hread] at hresult
        cases hresult
        exact ⟨pages, ⟨hvalid, delivery, created, first, looks, second, job, acts, _, hcreated,
          hlooks, hdecides, beq_iff_eq.mp hcomplete, hpages, hread⟩, rfl⟩

end Runs

/-! ### Single requests -/

section Requests

variable {client : Client} {id : String} {traffic : Traffic}

/-- A value is read as JSON exactly where the request is delivered (`Delivers`) and the last reply
shows the value (`Delivery.Shows`). -/
theorem executeJson_eq_ok_iff {α : Type} {decode : Json.Decoder α} {request : Http.Request}
    {value : α} :
    (Client.lift (Http.executeJson client.org.http decode request) traffic).1 = .ok value ↔
      ∃ delivery after, Delivers client.org.http request traffic delivery after ∧
        delivery.Shows decode value := by
  cases hprepare : request.prepare client.org.http with
  | error failure =>
    rw [Client.lift_executeJson, Http.execute_of_error hprepare]
    exact iff_of_false nofun fun ⟨_, _, hdelivers, _⟩ ↦ hdelivers.prepare_ne_error hprepare
  | ok message =>
    obtain ⟨delivery, after, rfl, hreceived, hrun⟩ : ∃ delivery after,
        delivery.message = message ∧ Received traffic [delivery] after ∧
        Client.lift (Http.executeJson client.org.http decode request) traffic =
          ((delivery.read decode).mapError Failure.ofHttp, after) :=
      Client.lift_executeJson_delivers hprepare traffic
    have hown : Delivers client.org.http request traffic delivery after := ⟨hprepare, hreceived⟩
    rw [hrun, mapError_eq_ok_iff, Delivery.read_eq_ok_iff]
    constructor
    · exact fun hshows ↦ ⟨delivery, after, hown, hshows⟩
    · rintro ⟨other, _, hother, hshows⟩
      rwa [(hown.unique hother).1]

theorem seen_iff {job : IngestJob} : Seen client id traffic job ↔
    (Client.getJob IngestJob client id traffic).1 = .ok job :=
  executeJson_eq_ok_iff.symm

theorem aborted_iff {job : IngestJob} : Aborted client id traffic job ↔
    (Client.abortJob IngestJob client id traffic).1 = .ok job := by
  cases hprepare : (client.abortRequest .ingest id).prepare client.org.http with
  | error failure =>
    have hask : Client.requestAbort IngestJob client id traffic =
        (.error (.ofHttp failure), traffic) := by
      refine (Client.lift_executeJson (client.abortRequest .ingest id) _ traffic).trans ?_
      rw [Http.execute_of_error hprepare]
      rfl
    have hstatus : (Failure.ofHttp failure).status? = none := by
      rw [Failure.status?_ofHttp, Http.Request.status?_of_prepare hprepare]
    rw [Client.abortJob_of_error hask (by rw [hstatus]; simp)]
    exact iff_of_false (fun ⟨_, _, hdelivers, _⟩ ↦ hdelivers.prepare_ne_error hprepare) nofun
  | ok patch =>
    obtain ⟨first, between, rfl, hreceived, hask⟩ : ∃ first between,
        first.message = patch ∧ Received traffic [first] between ∧
        Client.requestAbort IngestJob client id traffic =
          ((first.read IngestJob.decode).mapError Failure.ofHttp, between) :=
      Client.lift_executeJson_delivers hprepare traffic
    have hfirst : Delivers client.org.http (client.abortRequest .ingest id) traffic first between :=
      ⟨hprepare, hreceived⟩
    have hdone : Aborted client id traffic job ↔ first.Shows IngestJob.decode job ∨
        first.IsRefused ∧ Seen client id between job ∧ job.state = .aborted := by
      constructor
      · rintro ⟨delivery, after, hdelivers, hends⟩
        obtain ⟨rfl, rfl⟩ := hfirst.unique hdelivers
        exact hends
      · exact fun hends ↦ ⟨first, between, hfirst, hends⟩
    rw [hdone]
    cases hread : first.read IngestJob.decode with
    | ok shown =>
      rw [hread] at hask
      have hshows := Delivery.read_eq_ok_iff.mp hread
      rw [Client.abortJob_of_ok hask]
      constructor
      · rintro (hother | ⟨hrefused, -⟩)
        · rw [hshows.unique hother]
        · obtain ⟨failure, hfailure⟩ := hrefused.read_eq IngestJob.decode
          rw [hfailure] at hread
          cases hread
      · rintro ⟨⟩
        exact .inl hshows
    | error problem =>
      rw [hread] at hask
      have hnot : ¬first.Shows IngestJob.decode job := by
        rw [← Delivery.read_eq_ok_iff, hread]
        nofun
      by_cases hrefused : first.IsRefused
      · have hlook : Client.getJob IngestJob client id between =
            ((Client.getJob IngestJob client id between).1,
              (Client.getJob IngestJob client id between).2) := Prod.mk.eta.symm
        rw [Client.abortJob_of_refused hask ((Client.status?_ofHttp_iff hread).mpr hrefused) hlook,
          Client.afterRefusal_eq_ok_iff, ← seen_iff]
        exact ⟨fun h ↦ (h.resolve_left hnot).2, fun h ↦ .inr ⟨hrefused, h⟩⟩
      · rw [Client.abortJob_of_error hask (mt (Client.status?_ofHttp_iff hread).mp hrefused)]
        exact iff_of_false (fun h ↦ h.elim hnot fun h ↦ hrefused h.1) nofun

theorem deleted_iff : Deleted client id traffic ↔
    (client.deleteJob .ingest id traffic).1 = .ok () := by
  have hrun : client.deleteJob .ingest id traffic =
      (((Http.execute client.org.http (client.org.request .delete (client.jobUrl .ingest id))
        traffic).1.map fun _ ↦ ()).mapError Failure.ofHttp,
      (Http.execute client.org.http (client.org.request .delete (client.jobUrl .ingest id))
        traffic).2) := by
    have hmap : (client.org.delete (client.jobUrl .ingest id)) =
        (fun _ ↦ ()) <$> Http.execute client.org.http
          (client.org.request .delete (client.jobUrl .ingest id)) :=
      bind_pure_comp _ _
    rw [Client.deleteJob, Client.lift_apply, hmap, Exchange.map_apply]
  rw [hrun]
  cases hprepare : (client.org.request .delete (client.jobUrl .ingest id)).prepare
      client.org.http with
  | error failure =>
    rw [Http.execute_of_error hprepare]
    exact iff_of_false (fun ⟨_, _, hdelivers, _⟩ ↦ hdelivers.prepare_ne_error hprepare) nofun
  | ok message =>
    obtain ⟨delivery, after, rfl, hreceived, hexecute⟩ := Http.execute_delivers hprepare traffic
    have hown : Delivers client.org.http
        (client.org.request .delete (client.jobUrl .ingest id)) traffic delivery after :=
      ⟨hprepare, hreceived⟩
    rw [hexecute]
    constructor
    · rintro ⟨other, _, hother, hstatus, harrives⟩
      obtain ⟨rfl, rfl⟩ := hown.unique hother
      rw [Delivery.answer_of_arrives hstatus harrives]
      rfl
    · intro hok
      cases hanswer : delivery.answer with
      | error failure =>
        rw [hanswer] at hok
        cases hok
      | ok response =>
        obtain ⟨hstatus, harrives, -⟩ := Delivery.of_answer hanswer
        exact ⟨delivery, after, hown, hstatus, harrives⟩

end Requests

/-! ### Listings of both families -/

/-- While the two listings take turns, over the network go the messages of two chains of pages,
merged in the order of the turns, and what is listed is what both come to. From each state of the
network on there is only one way for this to happen. -/
theorem jobs_eq_iff {client : Client} {turns : List Bool} {traffic after : Traffic}
    {result : Except Failure Report} : jobs client turns traffic = (result, after) ↔
    ∃ acts acts' : List (PageAct ListingPlace (JobPage Json)),
      (client.listing .ingest).Chain .first acts ∧ (client.listing .query).Chain .first acts' ∧
      Passed traffic (merged turns (acts.flatMap (·.hops)) (acts'.flatMap (·.hops))) after ∧
      result = do
        let ingest ← Except.map (·.flatMap (Client.recognized IngestJob)) (acts.mapM (·.page))
        let query ← Except.map (·.flatMap (Client.recognized QueryJob)) (acts'.mapM (·.page))
        return { output := listing ingest query } := by
  constructor
  · intro hrun
    obtain ⟨hops, hshows, hpassed⟩ := (Process.join turns
      (client.listSteps IngestJob traffic.replies.length).run
      (client.listSteps QueryJob traffic.replies.length).run).exists_shows traffic
    obtain ⟨shown, shown', rfl, hingest, hquery⟩ := Process.shows_join_iff.mp hshows
    obtain ⟨hbound, hbound'⟩ := hpassed.countP_le_of_merged
    obtain ⟨acts, hchain, rfl, hpages⟩ :=
      (Client.listSteps_shows_iff IngestJob hbound).mp hingest
    obtain ⟨acts', hchain', rfl, hpages'⟩ :=
      (Client.listSteps_shows_iff QueryJob hbound').mp hquery
    obtain ⟨rfl, rfl⟩ := Prod.mk.inj hrun
    exact ⟨acts, acts', hchain, hchain', hpassed, by rw [hpages, hpages']⟩
  · rintro ⟨acts, acts', hchain, hchain', hpassed, rfl⟩
    obtain ⟨hbound, hbound'⟩ := hpassed.countP_le_of_merged
    have hingest := (Client.listSteps_shows_iff IngestJob hbound).mpr ⟨acts, hchain, rfl, rfl⟩
    have hquery := (Client.listSteps_shows_iff QueryJob hbound').mpr ⟨acts', hchain', rfl, rfl⟩
    have hshows : (Process.join turns
        (client.listSteps IngestJob traffic.replies.length).run
        (client.listSteps QueryJob traffic.replies.length).run).Shows _ (_, _) :=
      Process.shows_join_iff.mpr ⟨_, _, rfl, hingest, hquery⟩
    rw [jobs, hshows.run_eq hpassed]
    rfl

/-- The listings end well exactly when all jobs are listed (`Listed`), and then what is printed are
the jobs on the pages of both. -/
theorem listed_iff {client : Client} {turns : List Bool} {traffic : Traffic} {said : Report} :
    (∃ pages pages', Listed client turns traffic pages pages' ∧ said =
        { output := listing (pages.flatMap (Client.recognized IngestJob))
            (pages'.flatMap (Client.recognized QueryJob)) }) ↔
      (jobs client turns traffic).1 = .ok said := by
  constructor
  · rintro ⟨pages, pages', ⟨acts, acts', after, hchain, hchain', hpassed, hread, hread'⟩, rfl⟩
    rw [jobs_eq_iff.mpr ⟨acts, acts', hchain, hchain', hpassed, rfl⟩, hread, hread']
    rfl
  · intro hrun
    obtain ⟨acts, acts', hchain, hchain', hpassed, hresult⟩ :=
      jobs_eq_iff.mp (Prod.mk.eta (p := jobs client turns traffic)).symm
    rw [hrun] at hresult
    cases hread : acts.mapM (·.page) with
    | error failure =>
      rw [hread] at hresult
      cases hresult
    | ok pages =>
      cases hread' : acts'.mapM (·.page) with
      | error failure =>
        rw [hread, hread'] at hresult
        cases hresult
      | ok pages' =>
        rw [hread, hread'] at hresult
        cases hresult
        exact ⟨pages, pages', ⟨acts, acts', _, hchain, hchain', hpassed, hread, hread'⟩, rfl⟩

/-! ### Reports -/

section Reports

variable {client : Client} {surroundings : Surroundings} {traffic : Traffic}

theorem bind_pure_apply {α : Type} (x : Session α) (report : α → Report) (traffic : Traffic) :
    (x >>= fun a ↦ pure (report a)) traffic = ((x traffic).1.map report, (x traffic).2) := by
  rw [bind_pure_comp]
  exact Exchange.map_apply report x traffic

theorem exists_map_iff {α : Type} {report : α → Report} {result : Except Failure α} :
    (∃ said, result.map report = .ok said ∧ said.complaint = none) ↔
      ∃ a, result = .ok a ∧ (report a).complaint = none := by
  cases result with
  | error failure => exact iff_of_false nofun nofun
  | ok a =>
    constructor
    · rintro ⟨_, ⟨⟩, hsaid⟩
      exact ⟨a, rfl, hsaid⟩
    · rintro ⟨_, ⟨⟩, hsaid⟩
      exact ⟨report a, rfl, hsaid⟩

/-- Where a report never comes with a complaint (`hreport`), a result is all that is asked for. -/
theorem exists_map_iff_of_forall {α : Type} {report : α → Report} {result : Except Failure α}
    (hreport : ∀ a, (report a).complaint = none) :
    (∃ said, result.map report = .ok said ∧ said.complaint = none) ↔ ∃ a, result = .ok a := by
  rw [exists_map_iff]
  exact exists_congr fun a ↦ and_iff_left (hreport a)

theorem complaint_ingestReport_iff {outcome : IngestOutcome} :
    (ingestReport outcome).complaint = none ↔ outcome.isSuccess = true := by
  change (if outcome.isSuccess then none else some _) = none ↔ _
  cases outcome.isSuccess
  · exact iff_of_false nofun nofun
  · exact iff_of_true rfl rfl

theorem complaint_queryReport_iff {outcome : QueryOutcome} :
    (queryReport outcome).complaint = none ↔ ∃ csv, outcome.csv = some csv := by
  unfold queryReport
  cases outcome.csv with
  | none => exact iff_of_false nofun nofun
  | some csv => exact iff_of_true rfl ⟨csv, rfl⟩

section Ingest

variable {object file : String} {more : List String} {operation : Operation}

theorem ingest_of_unknown (client : Client) (surroundings : Surroundings) (object file : String)
    (traffic : Traffic) (hoperation : operation? more = none) : ∃ failure,
    ingest client surroundings object file more traffic = (.error failure, traffic) := by
  cases more with
  | nil => cases hoperation
  | cons name more =>
    have hname : Operation.ofName? name = none := hoperation
    refine ⟨.invalidRequest ("unknown bulk operation: " ++ name), ?_⟩
    unfold ingest
    refine Exchange.bind_of_error ?_
    simp only [List.head?_cons, Operation.parse, hname]
    rfl

/-- An operation that is known (`hoperation`) is the one of the draft, and then the file is looked
at, and only if it can be read the job is run. -/
theorem ingest_of_known (hoperation : operation? more = some operation) :
    ingest client surroundings object file more =
      match surroundings.fileContent file with
      | .error reason => return { output := "", complaint := some reason }
      | .ok data => do
        return ingestReport (← client.runIngest surroundings.clock
          (ingestDraft object operation more) data) := by
  funext traffic
  unfold ingest
  refine Exchange.bind_of_ok ?_
  cases more with
  | nil =>
    cases hoperation
    rfl
  | cons name more =>
    have hname : Operation.ofName? name = some operation := hoperation
    simp only [List.head?_cons, Operation.parse, hname]
    rfl

theorem ingest_iff : (∃ said, (ingest client surroundings object file more traffic).1 = .ok said ∧
      said.complaint = none) ↔
    (Command.ingest object file more).IsDone client surroundings traffic := by
  rw [Command.IsDone]
  cases hoperation : operation? more with
  | none =>
    obtain ⟨failure, hrun⟩ :=
      ingest_of_unknown client surroundings object file traffic hoperation
    rw [hrun]
    exact iff_of_false nofun nofun
  | some operation =>
    rw [ingest_of_known hoperation]
    cases hfile : surroundings.fileContent file with
    | error reason =>
      refine iff_of_false ?_ nofun
      rintro ⟨_, ⟨⟩, hsaid⟩
      cases hsaid
    | ok data =>
      have hdone : (∃ operation' data', some operation = some operation' ∧
          (Except.ok data : Except String Octets) = .ok data' ∧
            Ingested client surroundings.clock (ingestDraft object operation' more) data'
              traffic) ↔
          Ingested client surroundings.clock (ingestDraft object operation more) data traffic := by
        constructor
        · rintro ⟨_, _, ⟨⟩, ⟨⟩, hingested⟩
          exact hingested
        · exact fun hingested ↦ ⟨operation, data, rfl, rfl, hingested⟩
      rw [hdone, ingested_iff]
      simp only [bind_pure_apply, exists_map_iff, complaint_ingestReport_iff]

end Ingest

/-- A command is reported without a complaint exactly when it was carried out (`Command.IsDone`),
whatever the network does. -/
theorem perform_iff {command : Command} :
    (∃ said, (perform client surroundings command traffic).1 = .ok said ∧
        said.complaint = none) ↔ command.IsDone client surroundings traffic := by
  cases command with
  | ingest object file more => exact ingest_iff
  | query soql =>
    simp only [perform, bind_pure_apply, exists_map_iff, complaint_queryReport_iff]
    constructor
    · rintro ⟨⟨job, _⟩, hrun, csv, rfl⟩
      obtain ⟨pages, hqueried, -⟩ := queried_iff.mpr ⟨job, hrun⟩
      exact ⟨pages, hqueried⟩
    · rintro ⟨pages, hqueried⟩
      obtain ⟨job, hrun⟩ := queried_iff.mp ⟨pages, hqueried, rfl⟩
      exact ⟨_, hrun, _, rfl⟩
  | jobs =>
    simp only [perform, ← listed_iff]
    constructor
    · rintro ⟨said, ⟨pages, pages', hlisted, -⟩, -⟩
      exact ⟨pages, pages', hlisted⟩
    · rintro ⟨pages, pages', hlisted⟩
      exact ⟨_, ⟨pages, pages', hlisted, rfl⟩, rfl⟩
  | status id =>
    have hclean : ∀ job, (statusReport job).complaint = none := fun _ ↦ rfl
    simp only [perform, bind_pure_apply, exists_map_iff_of_forall hclean, Command.IsDone, seen_iff]
  | abort id =>
    have hclean : ∀ job : IngestJob, ({ output := jobLine job } : Report).complaint = none :=
      fun _ ↦ rfl
    simp only [perform, bind_pure_apply, exists_map_iff_of_forall hclean, Command.IsDone,
      aborted_iff]
  | delete id =>
    have hclean : ∀ _ : Unit,
        ({ output := line ["job ", id, " deleted"] } : Report).complaint = none := fun _ ↦ rfl
    simp only [perform, bind_pure_apply, exists_map_iff_of_forall hclean, Command.IsDone,
      deleted_iff]
    exact Unique.exists_iff

/-- What cannot be asked for (`Command.IsUnfit`) is noticed before anything is sent, so the network
stays as it is. -/
theorem perform_of_isUnfit {command : Command} (h : command.IsUnfit surroundings) :
    (perform client surroundings command traffic).2 = traffic := by
  cases command with
  | ingest object file more =>
    change (ingest client surroundings object file more traffic).2 = traffic
    cases hoperation : operation? more with
    | none =>
      obtain ⟨failure, hrun⟩ :=
        ingest_of_unknown client surroundings object file traffic hoperation
      rw [hrun]
    | some operation =>
      rw [ingest_of_known hoperation]
      cases hfile : surroundings.fileContent file with
      | error reason => rfl
      | ok data =>
        rw [Command.IsUnfit, hoperation, hfile] at h
        obtain h | ⟨reason, h⟩ | ⟨_, failure, ⟨⟩, hvalid⟩ := h
        · cases h
        · cases h
        · simp only [bind_pure_apply, Client.runIngest_of_invalid hvalid]
  | query soql =>
    obtain ⟨failure, hvalid⟩ := h
    simp only [perform, bind_pure_apply, Client.runQuery_of_invalid hvalid]
  | jobs | status id | abort id | delete id => cases h

end Reports

end BulkJobs.Console
