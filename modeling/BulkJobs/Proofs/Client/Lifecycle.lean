import BulkJobs.Proofs.Client.IngestAct

/-!
# The life of an ingest job

`Lifecycle` is the grammar of all runs of an ingest job from its creation to its results, as acts
together with how the run ends: a draft that is refused leads to no act, an upload that fails to an
abort and perhaps one look, and a job that is closed to looks until one of them decides
(`Looks`) and then to the artifacts (`Fetches`). Every run is recorded by acts of this grammar
(`runIngest_account`), and where the acts of a run that ends with an outcome are recorded, no run
ends otherwise (`Lifecycle.eq_of_ok`). The number of looks has no bound in the grammar: where the
program counts the replies that are still to come, the last look fails before the count runs out
(`waitFrom_looks`).
-/

set_option autoImplicit false
set_option relaxedAutoImplicit false

namespace BulkJobs

open Http (Delivery Traffic)

/-- Looks at a job from the one with a given number on, each at the time that the clock gives for
its number, until one of them decides (`Polling.verdict?`). -/
inductive Looks (polling : Polling) (clock : Nat → Span) (id : String) :
    Nat → List IngestAct → Except Failure IngestJob → Prop where
  | last {number : Nat} {delivery : Option Delivery} {seen result : Except Failure IngestJob} :
      polling.verdict? id (clock number) seen = some result →
      Looks polling clock id number [⟨.look id, delivery, seen.map .job⟩] result
  | again {number : Nat} {delivery : Option Delivery} {seen result : Except Failure IngestJob}
      {acts : List IngestAct} :
      polling.verdict? id (clock number) seen = none →
      Looks polling clock id (number + 1) acts result →
      Looks polling clock id number (⟨.look id, delivery, seen.map .job⟩ :: acts) result

/-- An abort, and one look at the job when the service refuses the abort for the state of the job,
with the status 400 or 409. What the abort comes to is not said here. -/
inductive Aborting (id : String) : List IngestAct → Prop where
  | settled {delivery : Option Delivery} {result : Except Failure StepYield} :
      (∀ failure, result = .error failure →
        failure.status? ≠ some 400 ∧ failure.status? ≠ some 409) →
      Aborting id [⟨.abort id, delivery, result⟩]
  | reread {delivery delivery' : Option Delivery} {failure : Failure}
      {result : Except Failure StepYield} :
      failure.status? = some 400 ∨ failure.status? = some 409 →
      Aborting id [⟨.abort id, delivery, .error failure⟩, ⟨.look id, delivery', result⟩]

/-- The artifacts of a job that is done, one after another until one of them fails, and the outcome
that they make up; a job that is done otherwise has none. -/
inductive Fetches (job : IngestJob) : List IngestAct → Except Failure IngestOutcome → Prop where
  | skipped : job.state.isSuccess = false →
      Fetches job [] (.ok ⟨job, none, none, none⟩)
  | first {delivery : Option Delivery} {failure : Failure} : job.state.isSuccess = true →
      Fetches job [⟨.fetch .successful job.id, delivery, .error failure⟩] (.error failure)
  | second {delivery delivery' : Option Delivery} {successful : ResultSet} {failure : Failure} :
      job.state.isSuccess = true →
      Fetches job [⟨.fetch .successful job.id, delivery, .ok (.table successful)⟩,
        ⟨.fetch .failed job.id, delivery', .error failure⟩] (.error failure)
  | third {delivery delivery' delivery'' : Option Delivery} {successful failed : ResultSet}
      {failure : Failure} : job.state.isSuccess = true →
      Fetches job [⟨.fetch .successful job.id, delivery, .ok (.table successful)⟩,
        ⟨.fetch .failed job.id, delivery', .ok (.table failed)⟩,
        ⟨.fetch .unprocessed job.id, delivery'', .error failure⟩] (.error failure)
  | all {delivery delivery' delivery'' : Option Delivery}
      {successful failed unprocessed : ResultSet} : job.state.isSuccess = true →
      Fetches job [⟨.fetch .successful job.id, delivery, .ok (.table successful)⟩,
        ⟨.fetch .failed job.id, delivery', .ok (.table failed)⟩,
        ⟨.fetch .unprocessed job.id, delivery'', .ok (.table unprocessed)⟩]
        (.ok ⟨job, some successful, some failed, some unprocessed⟩)

/-- The acts of a run of an ingest job, and how the run ends: a grammar whose words are just the
runs that there can be, with `Looks`, `Aborting` and `Fetches` for its parts. -/
inductive Lifecycle (polling : Polling) (clock : Nat → Span) (draft : IngestDraft) :
    List IngestAct → Except Failure IngestOutcome → Prop where
  | refused {failure : Failure} : draft.validate = .error failure →
      Lifecycle polling clock draft [] (.error failure)
  | uncreated {delivery : Option Delivery} {failure : Failure} :
      Lifecycle polling clock draft [⟨.create, delivery, .error failure⟩] (.error failure)
  | aborted {delivery delivery' : Option Delivery} {created : IngestJob} {failure : Failure}
      {acts : List IngestAct} : Aborting created.id acts →
      Lifecycle polling clock draft (⟨.create, delivery, .ok (.job created)⟩ ::
        ⟨.upload created.id, delivery', .error failure⟩ :: acts) (.error failure)
  | unclosed {delivery delivery' delivery'' : Option Delivery} {created : IngestJob}
      {failure : Failure} :
      Lifecycle polling clock draft [⟨.create, delivery, .ok (.job created)⟩,
        ⟨.upload created.id, delivery', .ok .nothing⟩,
        ⟨.close created.id, delivery'', .error failure⟩] (.error failure)
  | unfinished {delivery delivery' delivery'' : Option Delivery} {created closed : IngestJob}
      {failure : Failure} {looks : List IngestAct} :
      Looks polling clock created.id 0 looks (.error failure) →
      Lifecycle polling clock draft (⟨.create, delivery, .ok (.job created)⟩ ::
        ⟨.upload created.id, delivery', .ok .nothing⟩ ::
        ⟨.close created.id, delivery'', .ok (.job closed)⟩ :: looks) (.error failure)
  | finished {delivery delivery' delivery'' : Option Delivery} {created closed job : IngestJob}
      {looks fetches : List IngestAct} {result : Except Failure IngestOutcome} :
      Looks polling clock created.id 0 looks (.ok job) → Fetches job fetches result →
      Lifecycle polling clock draft (⟨.create, delivery, .ok (.job created)⟩ ::
        ⟨.upload created.id, delivery', .ok .nothing⟩ ::
        ⟨.close created.id, delivery'', .ok (.job closed)⟩ :: (looks ++ fetches)) result

/-! ### Lives that end with an outcome -/

section Unique

variable {client : Client} {polling : Polling} {clock : Nat → Span} {draft : IngestDraft}
  {data : Octets} {traffic traffic' traffic'' : Traffic} {acts others more later : List IngestAct}

/-- Two logs from one state of the network on that begin with looks at one job until one of them
decides come to the same decision, and go on from one state. The induction is on the looks: which of
them decides depends on what they show, and that is the same in both logs. -/
theorem Looks.unique {id : String} {number : Nat} {result result' : Except Failure IngestJob}
    (hlooks : Looks polling clock id number acts result)
    (hlooks' : Looks polling clock id number others result')
    (h : Recorded client draft data traffic (acts ++ more) traffic')
    (hother : Recorded client draft data traffic (others ++ later) traffic'') :
    result = result' ∧ ∃ between, Recorded client draft data between more traffic' ∧
      Recorded client draft data between later traffic'' := by
  have hjob : ∀ {seen seen' : Except Failure IngestJob},
      seen.map StepYield.job = seen'.map StepYield.job → seen = seen' := by
    rintro (_ | _) (_ | _) ⟨⟩ <;> rfl
  induction hlooks generalizing others traffic with
  | last hverdict =>
    cases hlooks' with
    | last hverdict' =>
      obtain ⟨hact, hrest⟩ := h.cons_unique hother rfl
      obtain rfl := hjob (congrArg IngestAct.result hact)
      exact ⟨Option.some.inj (hverdict.symm.trans hverdict'), hrest⟩
    | again hverdict' hrest' =>
      obtain ⟨hact, -⟩ := h.cons_unique hother rfl
      obtain rfl := hjob (congrArg IngestAct.result hact)
      rw [hverdict] at hverdict'
      cases hverdict'
  | again hverdict hrest ih =>
    cases hlooks' with
    | last hverdict' =>
      obtain ⟨hact, -⟩ := h.cons_unique hother rfl
      obtain rfl := hjob (congrArg IngestAct.result hact)
      rw [hverdict] at hverdict'
      cases hverdict'
    | again hverdict' hrest' =>
      obtain ⟨hact, between, hmore, hlater⟩ := h.cons_unique hother rfl
      exact ih hrest' hmore hlater

/-- Where the artifacts of a job make up an outcome, nothing else comes of fetching them from the
same state of the network on. -/
theorem Fetches.eq_of_ok {job : IngestJob} {outcome : IngestOutcome}
    {result : Except Failure IngestOutcome} (hfetches : Fetches job acts (.ok outcome))
    (hfetches' : Fetches job others result)
    (h : Recorded client draft data traffic acts traffic')
    (hother : Recorded client draft data traffic others traffic'') : result = .ok outcome := by
  cases hfetches with
  | skipped hdone =>
    cases hfetches' with
    | skipped => rfl
    | first hdone' | second hdone' | third hdone' | all hdone' =>
      rw [hdone] at hdone'
      cases hdone'
  | all hdone =>
    cases hfetches' with
    | skipped hdone' =>
      rw [hdone] at hdone'
      cases hdone'
    | first =>
      obtain ⟨⟨⟩, -⟩ := h.cons_unique hother rfl
    | second =>
      obtain ⟨⟨⟩, _, h, hother⟩ := h.cons_unique hother rfl
      obtain ⟨⟨⟩, -⟩ := h.cons_unique hother rfl
    | third =>
      obtain ⟨⟨⟩, _, h, hother⟩ := h.cons_unique hother rfl
      obtain ⟨⟨⟩, _, h, hother⟩ := h.cons_unique hother rfl
      obtain ⟨⟨⟩, -⟩ := h.cons_unique hother rfl
    | all =>
      obtain ⟨⟨⟩, _, h, hother⟩ := h.cons_unique hother rfl
      obtain ⟨⟨⟩, _, h, hother⟩ := h.cons_unique hother rfl
      obtain ⟨⟨⟩, -⟩ := h.cons_unique hother rfl
      rfl

/-- Where a life that ends with an outcome is recorded, every other one from the same state of the
network on ends with this outcome, unless the draft is refused (`hvalid`). The cases are those of
the other life: it takes the same steps, so what was shown behind them is the same. -/
theorem Lifecycle.eq_of_ok {outcome : IngestOutcome} {result : Except Failure IngestOutcome}
    (hlife : Lifecycle polling clock draft acts (.ok outcome))
    (hlife' : Lifecycle polling clock draft others result) (hvalid : draft.validate = .ok ())
    (h : Recorded client draft data traffic acts traffic')
    (hother : Recorded client draft data traffic others traffic'') : result = .ok outcome := by
  cases hlife with
  | finished hlooks hfetches =>
    cases hlife' with
    | refused hrefused =>
      rw [hvalid] at hrefused
      cases hrefused
    | uncreated =>
      obtain ⟨⟨⟩, -⟩ := h.cons_unique hother rfl
    | aborted =>
      obtain ⟨⟨⟩, _, h, hother⟩ := h.cons_unique hother rfl
      obtain ⟨⟨⟩, -⟩ := h.cons_unique hother rfl
    | unclosed =>
      obtain ⟨⟨⟩, _, h, hother⟩ := h.cons_unique hother rfl
      obtain ⟨⟨⟩, _, h, hother⟩ := h.cons_unique hother rfl
      obtain ⟨⟨⟩, -⟩ := h.cons_unique hother rfl
    | @unfinished _ _ _ _ _ _ looks hlooks' =>
      obtain ⟨⟨⟩, _, h, hother⟩ := h.cons_unique hother rfl
      obtain ⟨⟨⟩, _, h, hother⟩ := h.cons_unique hother rfl
      obtain ⟨⟨⟩, _, h, hother⟩ := h.cons_unique hother rfl
      rw [← List.append_nil looks] at hother
      obtain ⟨⟨⟩, -⟩ := hlooks.unique hlooks' h hother
    | finished hlooks' hfetches' =>
      obtain ⟨⟨⟩, _, h, hother⟩ := h.cons_unique hother rfl
      obtain ⟨⟨⟩, _, h, hother⟩ := h.cons_unique hother rfl
      obtain ⟨⟨⟩, _, h, hother⟩ := h.cons_unique hother rfl
      obtain ⟨⟨⟩, _, h, hother⟩ := hlooks.unique hlooks' h hother
      exact hfetches.eq_of_ok hfetches' h hother

end Unique

namespace Client

variable {client : Client} {clock : Nat → Span} {draft : IngestDraft} {data : Octets}

/-! ### Waiting -/

theorem verdict?_error (polling : Polling) (id : String) (elapsed : Span) (failure : Failure) :
    polling.verdict? id elapsed (.error failure : Except Failure IngestJob) =
      some (.error failure) :=
  rfl

/-- Waiting is looking until a look decides. The induction is on the count of looks; as a look that
leaves the job unfinished takes one of the replies that are to come, the look at the end of the
count finds none and fails, and a look that fails decides. -/
theorem waitFrom_looks (client : Client) (clock : Nat → Span) (draft : IngestDraft) (data : Octets)
    (id : String) (more number : Nat) (traffic : Traffic)
    (hmore : traffic.replies.length ≤ more) : ∃ acts result traffic',
      client.polling.waitFrom id clock (look IngestJob client id) more number traffic =
          (.ok result, traffic') ∧
        Recorded client draft data traffic acts traffic' ∧
        Looks client.polling clock id number acts result := by
  induction more generalizing number traffic with
  | zero =>
    cases hrun : getJob IngestJob client id traffic with
    | mk seen traffic' =>
      obtain ⟨delivery, hact⟩ :=
        performs_getJob client draft data id traffic seen traffic' hrun
      have hlook : look IngestJob client id traffic = (.ok seen, traffic') :=
        Http.Exchange.attempt_of_run hrun
      rw [Polling.waitFrom]
      refine ⟨_, seen, traffic', hlook, .single hact, .last ?_⟩
      cases seen with
      | error failure => exact verdict?_error client.polling id (clock number) failure
      | ok job =>
        obtain ⟨-, hlength⟩ := hact.of_ok rfl
        omega
  | succ more ih =>
    cases hrun : getJob IngestJob client id traffic with
    | mk seen traffic' =>
      obtain ⟨delivery, hact⟩ :=
        performs_getJob client draft data id traffic seen traffic' hrun
      have hlook : look IngestJob client id traffic = (.ok seen, traffic') :=
        Http.Exchange.attempt_of_run hrun
      rw [Polling.waitFrom, Http.Exchange.bind_of_ok hlook]
      cases hverdict : client.polling.verdict? id (clock number) seen with
      | some result => exact ⟨_, result, traffic', rfl, .single hact, .last hverdict⟩
      | none =>
        cases seen with
        | error failure =>
          rw [verdict?_error] at hverdict
          cases hverdict
        | ok job =>
          obtain ⟨-, hlength⟩ := hact.of_ok rfl
          obtain ⟨acts, result, traffic'', hwait, hacts, hlooks⟩ :=
            ih (number + 1) traffic' (by omega)
          exact ⟨_, result, traffic'', hwait, .cons hact hacts, .again hverdict hlooks⟩

theorem waitForJob_looks (client : Client) (clock : Nat → Span) (draft : IngestDraft)
    (data : Octets) (id : String) (traffic : Traffic) : ∃ acts,
      Recorded client draft data traffic acts (waitForJob IngestJob client clock id traffic).2 ∧
        Looks client.polling clock id 0 acts (waitForJob IngestJob client clock id traffic).1 := by
  obtain ⟨acts, result, traffic', hwait, hacts, hlooks⟩ :=
    waitFrom_looks client clock draft data id traffic.replies.length 0 traffic (Nat.le_refl _)
  have hrun : waitForJob IngestJob client clock id traffic = (result, traffic') := by
    unfold waitForJob
    have hget : (get : Session Traffic) traffic = (.ok traffic, traffic) := rfl
    rw [Http.Exchange.bind_of_ok hget, Http.Exchange.bind_of_ok hwait]
    rfl
  rw [hrun]
  exact ⟨acts, hacts, hlooks⟩

/-! ### Aborting -/

theorem abortJob_account {id : String} {traffic traffic' : Traffic}
    {result : Except Failure IngestJob}
    (hrun : abortJob IngestJob client id traffic = (result, traffic')) : ∃ acts,
      Recorded client draft data traffic acts traffic' ∧ Aborting id acts := by
  cases hask : requestAbort IngestJob client id traffic with
  | mk answer between =>
    obtain ⟨delivery, hact⟩ :=
      performs_requestAbort client draft data id traffic answer between hask
    unfold abortJob at hrun
    rw [Http.Exchange.bind_of_ok (Http.Exchange.attempt_of_run hask)] at hrun
    cases answer with
    | ok job =>
      cases hrun
      exact ⟨_, .single hact, .settled fun failure h ↦ nomatch h⟩
    | error failure =>
      simp only at hrun
      split_ifs at hrun with hstatus
      · cases hlook : getJob IngestJob client id between with
        | mk seen after =>
          obtain ⟨delivery', hact'⟩ := performs_getJob client draft data id between seen after hlook
          rw [Http.Exchange.bind_of_ok (Http.Exchange.attempt_of_run hlook)] at hrun
          have htraffic : traffic' = after := by
            cases seen with
            | error _ => exact (congrArg Prod.snd hrun).symm
            | ok current =>
              simp only at hrun
              split_ifs at hrun <;> exact (congrArg Prod.snd hrun).symm
          rw [htraffic]
          exact ⟨_, .cons hact (.single hact'), .reread (by simpa using hstatus)⟩
      · cases hrun
        refine ⟨_, .single hact, .settled fun failure' h ↦ ?_⟩
        cases h
        simpa using hstatus

theorem createIngestJob_account {traffic traffic' : Traffic} {result : Except Failure IngestJob}
    (hrun : client.createIngestJob draft traffic = (result, traffic')) :
    (∃ failure, draft.validate = .error failure ∧ result = .error failure ∧ traffic' = traffic) ∨
      ∃ delivery, IngestAct.Happens client draft data traffic
        ⟨.create, delivery, result.map .job⟩ traffic' := by
  unfold createIngestJob at hrun
  cases hvalid : draft.validate with
  | error failure =>
    rw [hvalid] at hrun
    cases hrun
    exact .inl ⟨failure, rfl, rfl, rfl⟩
  | ok _ =>
    rw [hvalid] at hrun
    exact .inr (performs_postJob client draft data traffic result traffic' hrun)

/-- The upload to a job that was just created, and the abort when the upload fails: the acts of
both, and the failure of the upload as the result. -/
theorem uploadOrAbort_account {id : String} {traffic traffic' : Traffic}
    {result : Except Failure Unit}
    (hrun : client.uploadOrAbort id data traffic = (result, traffic')) :
    (result = .ok () ∧ ∃ delivery, IngestAct.Happens client draft data traffic
        ⟨.upload id, delivery, .ok .nothing⟩ traffic') ∨
      ∃ failure delivery acts, result = .error failure ∧ Aborting id acts ∧
        Recorded client draft data traffic (⟨.upload id, delivery, .error failure⟩ :: acts)
          traffic' := by
  cases hask : client.upload id data traffic with
  | mk answer between =>
    obtain ⟨delivery, hact⟩ := performs_upload client draft data id traffic answer between hask
    unfold uploadOrAbort at hrun
    rw [Http.Exchange.bind_of_ok (Http.Exchange.attempt_of_run hask)] at hrun
    cases answer with
    | ok _ =>
      cases hrun
      exact .inl ⟨rfl, delivery, hact⟩
    | error failure =>
      right
      cases habort : abortJob IngestJob client id between with
      | mk aborted after =>
        simp only at hrun
        rw [Http.Exchange.bind_of_ok (Http.Exchange.attempt_of_run habort)] at hrun
        cases hrun
        obtain ⟨acts, hacts, haborting⟩ := abortJob_account habort
        exact ⟨failure, delivery, acts, rfl, haborting, .cons hact hacts⟩

/-! ### Results -/

theorem ingestOutcome_account {job : IngestJob} {traffic traffic' : Traffic}
    {result : Except Failure IngestOutcome}
    (hrun : client.ingestOutcome draft.columnDelimiter job traffic = (result, traffic')) :
    ∃ acts, Recorded client draft data traffic acts traffic' ∧ Fetches job acts result := by
  unfold ingestOutcome at hrun
  split_ifs at hrun with hdone
  · cases hfirst : client.fetchSet draft.columnDelimiter .successful job.id traffic with
    | mk successful first =>
      obtain ⟨delivery, hact⟩ :=
        performs_fetchSet client draft data .successful job.id traffic successful first hfirst
      cases successful with
      | error failure =>
        rw [Http.Exchange.bind_of_error hfirst] at hrun
        cases hrun
        exact ⟨_, .single hact, .first hdone⟩
      | ok successful =>
        rw [Http.Exchange.bind_of_ok hfirst] at hrun
        cases hsecond : client.fetchSet draft.columnDelimiter .failed job.id first with
        | mk failed second =>
          obtain ⟨delivery', hact'⟩ :=
            performs_fetchSet client draft data .failed job.id first failed second hsecond
          cases failed with
          | error failure =>
            rw [Http.Exchange.bind_of_error hsecond] at hrun
            cases hrun
            exact ⟨_, .cons hact (.single hact'), .second hdone⟩
          | ok failed =>
            rw [Http.Exchange.bind_of_ok hsecond] at hrun
            cases hthird : client.fetchSet draft.columnDelimiter .unprocessed job.id second with
            | mk unprocessed third =>
              obtain ⟨delivery'', hact''⟩ := performs_fetchSet client draft data .unprocessed
                job.id second unprocessed third hthird
              cases unprocessed with
              | error failure =>
                rw [Http.Exchange.bind_of_error hthird] at hrun
                cases hrun
                exact ⟨_, .cons hact (.cons hact' (.single hact'')), .third hdone⟩
              | ok unprocessed =>
                rw [Http.Exchange.bind_of_ok hthird] at hrun
                cases hrun
                exact ⟨_, .cons hact (.cons hact' (.single hact'')), .all hdone⟩
  · cases hrun
    exact ⟨[], .nil traffic, .skipped (Bool.not_eq_true _ ▸ hdone)⟩

/-! ### The whole run -/

/-- Every run of an ingest job is recorded by acts of its life (`Recorded`, `Lifecycle`), on every
network and with every draft. -/
theorem runIngest_account (client : Client) (clock : Nat → Span) (draft : IngestDraft)
    (data : Octets) (traffic : Traffic) : ∃ acts,
      Recorded client draft data traffic acts (client.runIngest clock draft data traffic).2 ∧
        Lifecycle client.polling clock draft acts
          (client.runIngest clock draft data traffic).1 := by
  unfold runIngest
  cases hcreate : client.createIngestJob draft traffic with
  | mk created first =>
    rcases createIngestJob_account hcreate with ⟨failure, hvalid, rfl, rfl⟩ | ⟨delivery, hact⟩
    · rw [Http.Exchange.bind_of_error hcreate]
      exact ⟨[], .nil _, .refused hvalid⟩
    cases created with
    | error failure =>
      rw [Http.Exchange.bind_of_error hcreate]
      exact ⟨_, .single hact, .uncreated⟩
    | ok created =>
      rw [Http.Exchange.bind_of_ok hcreate]
      cases hupload : client.uploadOrAbort created.id data first with
      | mk uploaded second =>
        rcases uploadOrAbort_account hupload with
          ⟨rfl, delivery', hact'⟩ | ⟨failure, delivery', acts, rfl, haborting, hacts⟩
        · rw [Http.Exchange.bind_of_ok hupload]
          cases hclose : client.closeJob created.id second with
          | mk closed third =>
            obtain ⟨delivery'', hact''⟩ :=
              performs_closeJob client draft data created.id second closed third hclose
            cases closed with
            | error failure =>
              rw [Http.Exchange.bind_of_error hclose]
              exact ⟨_, .cons hact (.cons hact' (.single hact'')), .unclosed⟩
            | ok closed =>
              rw [Http.Exchange.bind_of_ok hclose]
              obtain ⟨looks, hlooks, hdecided⟩ :=
                waitForJob_looks client clock draft data created.id third
              have hacts := Recorded.cons hact (.cons hact' (.cons hact'' hlooks))
              cases hwait : waitForJob IngestJob client clock created.id third with
              | mk waited fourth =>
                rw [hwait] at hacts hdecided
                cases waited with
                | error failure =>
                  rw [Http.Exchange.bind_of_error hwait]
                  exact ⟨_, hacts, .unfinished hdecided⟩
                | ok job =>
                  rw [Http.Exchange.bind_of_ok hwait]
                  obtain ⟨fetches, hfetches, houtcome⟩ := ingestOutcome_account rfl
                  exact ⟨_, hacts.append hfetches, .finished hdecided houtcome⟩
        · rw [Http.Exchange.bind_of_error hupload]
          exact ⟨_, .cons hact hacts, .aborted haborting⟩

end Client

end BulkJobs
