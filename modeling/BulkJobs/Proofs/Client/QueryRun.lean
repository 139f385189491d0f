import BulkJobs.Proofs.Client.ResultPages

/-!
# The run of a query job

A query job is created, looked at until a look decides, and then its result is fetched page by page.
Each of the three is a chain of pages: the creation has one (`Client.creation`), the looks go on
while the job is unfinished (`Client.looks`), and the result is `Client.resultPages`. Waiting leaves
a trail of looks whose last one decides (`waitForJob_trail`). `QueryRun` puts the trails together,
and every run is one of these (`runQuery_account`). From one state of the network on there is no
other run besides one that reads the result (`QueryRun.eq_of_fetched`).
-/

set_option autoImplicit false
set_option relaxedAutoImplicit false

namespace BulkJobs

open JobSnapshot (kind)
open Http (Delivery Exchange Message Response Traffic)

/-! ### Looks -/

section Looks

variable {α : Type} [JobSnapshot α]

/-- Looks at a job as a chain of pages, with numbers for places: another one follows while the job
is unfinished and the time is not up. -/
def Client.looks (α : Type) [JobSnapshot α] (client : Client) (clock : Nat → Span) (id : String) :
    Paging Nat α where
  config := client.org.http
  request _ := client.org.request .get (client.jobUrl (kind α) id)
  read response := (response.readJson JobSnapshot.decode).mapError Failure.ofHttp
  next? number job :=
    if (client.polling.verdict? id (clock number) (.ok job : Except Failure α)).isNone then
      some (number + 1)
    else none

/-- Whether the last of some looks decides, at the time that the clock gives for its number, and
with which result. -/
def Decides (client : Client) (clock : Nat → Span) (id : String) (acts : List (PageAct Nat α))
    (result : Except Failure α) : Prop :=
  ∃ before act, acts = before ++ [act] ∧
    client.polling.verdict? id (clock act.place) act.page = some result

namespace Client

variable {client : Client} {clock : Nat → Span} {id : String} {traffic : Traffic}

theorem fetch_looks (client : Client) (clock : Nat → Span) (id : String) (number : Nat) :
    (client.looks α clock id).fetch number = getJob α client id := by
  funext traffic
  have hread : ∀ response traffic',
      (Exchange.ofExcept ((client.looks α clock id).read response) : Session α) traffic' =
        ((client.looks α clock id).read response, traffic') := fun _ _ ↦ rfl
  exact (lift_execute_bind hread _ traffic).trans
    (lift_executeJson (client.org.request .get (client.jobUrl (kind α) id)) _ traffic).symm

theorem next?_looks_of_some {act : PageAct Nat α} {result : Except Failure α}
    (hverdict : client.polling.verdict? id (clock act.place) act.page = some result) :
    act.next? (client.looks α clock id) = none := by
  cases hpage : act.page with
  | error failure => exact PageAct.next?_of_error hpage
  | ok job =>
    rw [hpage] at hverdict
    rw [PageAct.next?_of_ok hpage]
    simp only [looks, hverdict, Option.isNone_some, Bool.false_eq_true, if_false]

theorem next?_looks_of_none {act : PageAct Nat α}
    (hverdict : client.polling.verdict? id (clock act.place) act.page = none) :
    act.next? (client.looks α clock id) = some (act.place + 1) := by
  cases hpage : act.page with
  | error failure =>
    rw [hpage] at hverdict
    cases hverdict
  | ok job =>
    rw [hpage] at hverdict
    rw [PageAct.next?_of_ok hpage]
    simp only [looks, hverdict, Option.isNone_none, if_true]

/-- Waiting leaves a trail of looks, of which the last one decides. At the end of the count no reply
is left for another look, so that look fails, and a look that fails decides. -/
theorem waitFrom_trail (α : Type) [JobSnapshot α] (client : Client) (clock : Nat → Span)
    (id : String) (more number : Nat) (traffic : Traffic)
    (hmore : traffic.replies.length ≤ more) : ∃ acts result traffic',
      client.polling.waitFrom id clock (look α client id) more number traffic =
          (.ok result, traffic') ∧
        (client.looks α clock id).Trail number traffic acts traffic' ∧
        Decides client clock id acts result := by
  induction more generalizing number traffic with
  | zero =>
    obtain ⟨delivery, hact⟩ := (client.looks α clock id).fetch_happens number traffic
    rw [fetch_looks] at hact
    cases hrun : getJob α client id traffic with
    | mk seen traffic' =>
      rw [hrun] at hact
      have hlook : look α client id traffic = (.ok seen, traffic') := Exchange.attempt_of_run hrun
      cases seen with
      | error failure =>
        exact ⟨_, .error failure, traffic', hlook, .last hact (PageAct.next?_of_error rfl),
          [], _, rfl, rfl⟩
      | ok job =>
        have htaken : traffic'.replies.length < traffic.replies.length :=
          hact.length_replies rfl
        omega
  | succ more ih =>
    obtain ⟨delivery, hact⟩ := (client.looks α clock id).fetch_happens number traffic
    rw [fetch_looks] at hact
    cases hrun : getJob α client id traffic with
    | mk seen traffic' =>
      rw [hrun] at hact
      have hlook : look α client id traffic = (.ok seen, traffic') := Exchange.attempt_of_run hrun
      rw [Polling.waitFrom, Exchange.bind_of_ok hlook]
      cases hverdict : client.polling.verdict? id (clock number) seen with
      | some result =>
        exact ⟨_, result, traffic', rfl, .last hact (next?_looks_of_some hverdict), [], _, rfl,
          hverdict⟩
      | none =>
        cases seen with
        | error failure => cases hverdict
        | ok job =>
          have htaken : traffic'.replies.length < traffic.replies.length :=
            hact.length_replies rfl
          obtain ⟨acts, result, traffic'', hwait, htrail, before, act, rfl, hdecides⟩ :=
            ih (number + 1) traffic' (by omega)
          exact ⟨_, result, traffic'', hwait, .more hact (next?_looks_of_none hverdict) htrail,
            _ :: before, act, rfl, hdecides⟩

theorem waitForJob_trail (α : Type) [JobSnapshot α] (client : Client) (clock : Nat → Span)
    (id : String) (traffic : Traffic) : ∃ acts,
      (client.looks α clock id).Trail 0 traffic acts (waitForJob α client clock id traffic).2 ∧
        Decides client clock id acts (waitForJob α client clock id traffic).1 := by
  obtain ⟨acts, result, traffic', hwait, htrail, hdecides⟩ :=
    waitFrom_trail α client clock id traffic.replies.length 0 traffic (Nat.le_refl _)
  have hrun : waitForJob α client clock id traffic = (result, traffic') := by
    unfold waitForJob
    have hget : (get : Session Traffic) traffic = (.ok traffic, traffic) := rfl
    rw [Exchange.bind_of_ok hget, Exchange.bind_of_ok hwait]
    rfl
  rw [hrun]
  exact ⟨acts, htrail, hdecides⟩

end Client

theorem Decides.unique {client : Client} {clock : Nat → Span} {id : String}
    {acts : List (PageAct Nat α)} {result result' : Except Failure α}
    (h : Decides client clock id acts result) (hother : Decides client clock id acts result') :
    result = result' := by
  obtain ⟨before, act, rfl, hverdict⟩ := h
  obtain ⟨before', act', hacts, hverdict'⟩ := hother
  obtain ⟨-, ⟨⟩⟩ := List.append_inj' hacts rfl
  exact Option.some.inj (hverdict.symm.trans hverdict')

/-- A look that ends the waiting with a job (`h`) shows that job, in a terminal state. -/
theorem Decides.of_ok {client : Client} {clock : Nat → Span} {id : String}
    {acts : List (PageAct Nat α)} {job : α} (h : Decides client clock id acts (.ok job)) :
    ∃ before act, acts = before ++ [act] ∧ act.page = .ok job ∧
      (JobSnapshot.state job).isTerminal = true := by
  obtain ⟨before, act, hacts, hverdict⟩ := h
  refine ⟨before, act, hacts, ?_⟩
  unfold Polling.verdict? at hverdict
  cases hpage : act.page with
  | error failure =>
    rw [hpage] at hverdict
    cases hverdict
  | ok seen =>
    simp only [hpage] at hverdict
    split_ifs at hverdict with hterminal
    · cases hverdict
      exact ⟨rfl, hterminal⟩
    · cases hverdict

end Looks

/-! ### The whole run -/

/-- The creation of a query job, as a chain of one page: the job that the reply shows. -/
def Client.creation (client : Client) (draft : QueryDraft) : Paging Unit QueryJob where
  config := client.org.http
  request _ := (client.org.request .post (client.kindUrl .query)).withJson draft.encode
  read response := (response.readJson QueryJob.decode).mapError Failure.ofHttp
  next? _ _ := none

/-- The runs of a query job from one state of the network to another, and how they end: with a draft
that is refused, with the creation, with the looks, or with the pages of the result, which are asked
for only when the job is complete. -/
inductive QueryRun (client : Client) (clock : Nat → Span) (draft : QueryDraft)
    (traffic : Traffic) : Except Failure QueryOutcome → Traffic → Prop where
  | refused {failure : Failure} : draft.validate = .error failure →
      QueryRun client clock draft traffic (.error failure) traffic
  | uncreated {delivery : Option Delivery} {failure : Failure} {traffic' : Traffic} :
      PageAct.Happens (client.creation draft) traffic ⟨(), delivery, .error failure⟩ traffic' →
      QueryRun client clock draft traffic (.error failure) traffic'
  | unfinished {delivery : Option Delivery} {created : QueryJob} {failure : Failure}
      {looks : List (PageAct Nat QueryJob)} {first traffic' : Traffic} :
      PageAct.Happens (client.creation draft) traffic ⟨(), delivery, .ok created⟩ first →
      (client.looks QueryJob clock created.id).Trail 0 first looks traffic' →
      Decides client clock created.id looks (.error failure) →
      QueryRun client clock draft traffic (.error failure) traffic'
  | incomplete {delivery : Option Delivery} {created job : QueryJob}
      {looks : List (PageAct Nat QueryJob)} {first traffic' : Traffic} :
      PageAct.Happens (client.creation draft) traffic ⟨(), delivery, .ok created⟩ first →
      (client.looks QueryJob clock created.id).Trail 0 first looks traffic' →
      Decides client clock created.id looks (.ok job) → job.state.isSuccess = false →
      QueryRun client clock draft traffic (.ok ⟨job, none⟩) traffic'
  | fetched {delivery : Option Delivery} {created job : QueryJob}
      {looks : List (PageAct Nat QueryJob)} {pages : List (PageAct (Option String) ResultPage)}
      {first second traffic' : Traffic} :
      PageAct.Happens (client.creation draft) traffic ⟨(), delivery, .ok created⟩ first →
      (client.looks QueryJob clock created.id).Trail 0 first looks second →
      Decides client clock created.id looks (.ok job) → job.state.isSuccess = true →
      (client.resultPages job.id).Trail none second pages traffic' →
      QueryRun client clock draft traffic (Except.map (fun texts ↦
        ⟨job, some (joinPages (texts.map (·.csv)))⟩) (pages.mapM (·.page))) traffic'

/-- Where the pages of the result of a complete job are read behind its looks and its creation,
every run from the same state of the network on ends with these pages, unless the draft is refused
(`hvalid`). -/
theorem QueryRun.eq_of_fetched {client : Client} {clock : Nat → Span} {draft : QueryDraft}
    {traffic first second traffic' after : Traffic} {delivery : Option Delivery}
    {created job : QueryJob} {looks : List (PageAct Nat QueryJob)}
    {pages : List (PageAct (Option String) ResultPage)} {result : Except Failure QueryOutcome}
    (hrun : QueryRun client clock draft traffic result after) (hvalid : draft.validate = .ok ())
    (hcreated : PageAct.Happens (client.creation draft) traffic ⟨(), delivery, .ok created⟩ first)
    (hlooks : (client.looks QueryJob clock created.id).Trail 0 first looks second)
    (hdecides : Decides client clock created.id looks (.ok job))
    (hcomplete : job.state.isSuccess = true)
    (hpages : (client.resultPages job.id).Trail none second pages traffic') :
    result = Except.map (fun texts ↦ ⟨job, some (joinPages (texts.map (·.csv)))⟩)
      (pages.mapM (·.page)) := by
  cases hrun with
  | refused hrefused =>
    rw [hvalid] at hrefused
    cases hrefused
  | uncreated hfailed =>
    obtain ⟨⟨⟩, -⟩ := hcreated.unique hfailed rfl
  | unfinished hcreated' hlooks' hdecides' =>
    obtain ⟨⟨⟩, rfl⟩ := hcreated.unique hcreated' rfl
    obtain ⟨rfl, rfl⟩ := hlooks.unique hlooks'
    cases hdecides.unique hdecides'
  | incomplete hcreated' hlooks' hdecides' hincomplete =>
    obtain ⟨⟨⟩, rfl⟩ := hcreated.unique hcreated' rfl
    obtain ⟨rfl, rfl⟩ := hlooks.unique hlooks'
    cases hdecides.unique hdecides'
    rw [hcomplete] at hincomplete
    cases hincomplete
  | fetched hcreated' hlooks' hdecides' _ hpages' =>
    obtain ⟨⟨⟩, rfl⟩ := hcreated.unique hcreated' rfl
    obtain ⟨rfl, rfl⟩ := hlooks.unique hlooks'
    cases hdecides.unique hdecides'
    obtain ⟨rfl, rfl⟩ := hpages.unique hpages'
    rfl

namespace Client

theorem createQueryJob_account {client : Client} {draft : QueryDraft} {traffic traffic' : Traffic}
    {result : Except Failure QueryJob}
    (hrun : client.createQueryJob draft traffic = (result, traffic')) :
    (∃ failure, draft.validate = .error failure ∧ result = .error failure ∧ traffic' = traffic) ∨
      ∃ delivery, PageAct.Happens (client.creation draft) traffic ⟨(), delivery, result⟩
        traffic' := by
  unfold createQueryJob at hrun
  cases hvalid : draft.validate with
  | error failure =>
    rw [hvalid] at hrun
    cases hrun
    exact .inl ⟨failure, rfl, rfl, rfl⟩
  | ok _ =>
    rw [hvalid] at hrun
    have hpost : lift (client.org.postJson QueryJob.decode (client.kindUrl .query) draft.encode)
        traffic = (result, traffic') := hrun
    obtain ⟨delivery, hact⟩ := (client.creation draft).fetch_happens () traffic
    have hread : ∀ response traffic',
        (Exchange.ofExcept ((client.creation draft).read response) : Session QueryJob) traffic' =
          ((client.creation draft).read response, traffic') := fun _ _ ↦ rfl
    have hfetch : (client.creation draft).fetch () traffic = (result, traffic') := by
      rw [← hpost]
      exact (lift_execute_bind hread _ traffic).trans (lift_executeJson _ _ traffic).symm
    rw [hfetch] at hact
    exact .inr ⟨delivery, hact⟩

/-- Every run of a query job is its creation, looks at it, and the pages of its result, as far as it
gets (`QueryRun`). -/
theorem runQuery_account (client : Client) (clock : Nat → Span) (draft : QueryDraft)
    (traffic : Traffic) : QueryRun client clock draft traffic
      (client.runQuery clock draft traffic).1 (client.runQuery clock draft traffic).2 := by
  unfold runQuery
  cases hcreate : client.createQueryJob draft traffic with
  | mk created first =>
    rcases createQueryJob_account hcreate with ⟨failure, hvalid, rfl, rfl⟩ | ⟨delivery, hact⟩
    · rw [Exchange.bind_of_error hcreate]
      exact .refused hvalid
    cases created with
    | error failure =>
      rw [Exchange.bind_of_error hcreate]
      exact .uncreated hact
    | ok created =>
      rw [Exchange.bind_of_ok hcreate]
      obtain ⟨looks, hlooks, hdecides⟩ := waitForJob_trail QueryJob client clock created.id first
      cases hwait : waitForJob QueryJob client clock created.id first with
      | mk waited second =>
        rw [hwait] at hlooks hdecides
        cases waited with
        | error failure =>
          rw [Exchange.bind_of_error hwait]
          exact .unfinished hact hlooks hdecides
        | ok job =>
          rw [Exchange.bind_of_ok hwait]
          split_ifs with hcomplete
          · obtain ⟨pages, hpages, hresult⟩ := allQueryResults_trail client job.id second
            have hmap : ((fun texts ↦ QueryOutcome.mk job (some texts)) <$>
                client.allQueryResults job.id) second =
                  (Except.map (fun texts : List ResultPage ↦
                      ⟨job, some (joinPages (texts.map (·.csv)))⟩) (pages.mapM (·.page)),
                    (client.allQueryResults job.id second).2) := by
              rw [Exchange.map_apply, hresult]
              cases pages.mapM (·.page) <;> rfl
            rw [← bind_pure_comp] at hmap
            rw [hmap]
            exact .fetched hact hlooks hdecides hcomplete hpages
          · exact .incomplete hact hlooks hdecides (Bool.not_eq_true _ ▸ hcomplete)

end Client

end BulkJobs
