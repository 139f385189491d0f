import BulkJobs.Proofs.Client.Lifecycle
import BulkJobs.Proofs.Client.Length
import Mathlib.Data.List.Chain

/-!
# What a run of an ingest job sends and returns

A run of an ingest job is orderly (`runIngest_orderly`). What it sends is on one of two paths: one
goes from the creation of the job through upload, close and looks to the three artifacts, the other
from an upload that fails to an abort (`Lifecycle.sentSteps_path`). Each act of a run leaves room
for the next one: a look follows a look that shows the job unfinished, and artifacts are fetched
after a look that shows it complete (`LeadsOn`, `Lifecycle.chain`). The failure of an upload is the
result of the run, whatever becomes of the abort, and any other failure ends the run
(`EndsOnFailure`). An outcome is what the acts have shown, with the artifacts of a job that is
complete and none of a job that is not (`IngestOutcome.IsShown`).

An upload that cannot be built, or whose host cannot be connected to, is left out of the second path
(`UploadStaysUnsent`). The URL of an upload is longer than that of the job, and a request line
carries only so much, so that an upload may stay unsent where the abort is sent (`upload_left_out`).
-/

set_option autoImplicit false
set_option relaxedAutoImplicit false

namespace BulkJobs

open Http (Delivery Traffic)

/-- What may follow an act in a run: the next request for the job, if this one left room for it. -/
inductive LeadsOn : IngestAct → IngestAct → Prop where
  | created {delivery : Option Delivery} {created : IngestJob} {next : IngestAct} :
      next.step = .upload created.id →
      LeadsOn ⟨.create, delivery, .ok (.job created)⟩ next
  | uploaded {delivery : Option Delivery} {id : String} {next : IngestAct} :
      next.step = .close id → LeadsOn ⟨.upload id, delivery, .ok .nothing⟩ next
  | unsuccessful {delivery : Option Delivery} {id : String} {failure : Failure}
      {next : IngestAct} : next.step = .abort id →
      LeadsOn ⟨.upload id, delivery, .error failure⟩ next
  | refused {delivery : Option Delivery} {id : String} {failure : Failure} {next : IngestAct} :
      failure.status? = some 400 ∨ failure.status? = some 409 → next.step = .look id →
      LeadsOn ⟨.abort id, delivery, .error failure⟩ next
  | closed {delivery : Option Delivery} {id : String} {closed : IngestJob} {next : IngestAct} :
      next.step = .look id → LeadsOn ⟨.close id, delivery, .ok (.job closed)⟩ next
  | unfinished {delivery : Option Delivery} {id : String} {job : IngestJob} {next : IngestAct} :
      job.state.isTerminal = false → next.step = .look id →
      LeadsOn ⟨.look id, delivery, .ok (.job job)⟩ next
  | complete {delivery : Option Delivery} {id : String} {job : IngestJob} {next : IngestAct} :
      job.state = .jobComplete → next.step = .fetch .successful job.id →
      LeadsOn ⟨.look id, delivery, .ok (.job job)⟩ next
  | successful {delivery : Option Delivery} {id : String} {set : ResultSet} {next : IngestAct} :
      next.step = .fetch .failed id →
      LeadsOn ⟨.fetch .successful id, delivery, .ok (.table set)⟩ next
  | failed {delivery : Option Delivery} {id : String} {set : ResultSet} {next : IngestAct} :
      next.step = .fetch .unprocessed id →
      LeadsOn ⟨.fetch .failed id, delivery, .ok (.table set)⟩ next

/-! ### Looks -/

/-- Whether a failure says that waiting took too long: the last act is a look that shows the job
unfinished when the time is up. -/
def TimesOut (polling : Polling) (clock : Nat → Span) (acts : List IngestAct) (failure : Failure) :
    Prop :=
  ∃ before id number delivery job, acts = before ++ [⟨.look id, delivery, .ok (.job job)⟩] ∧
    job.state.isTerminal = false ∧ polling.isOverdue (clock number) = true ∧
    failure = .plain (.timeout id job.state (clock number))

theorem TimesOut.cons {polling : Polling} {clock : Nat → Span} {acts : List IngestAct}
    {failure : Failure} (h : TimesOut polling clock acts failure) (act : IngestAct) :
    TimesOut polling clock (act :: acts) failure := by
  obtain ⟨before, id, number, delivery, job, rfl, htimeout⟩ := h
  exact ⟨act :: before, id, number, delivery, job, rfl, htimeout⟩

theorem verdict?_cases {polling : Polling} {id : String} {elapsed : Span}
    {seen : Except Failure IngestJob} (verdict : Option (Except Failure IngestJob))
    (hverdict : polling.verdict? id elapsed seen = verdict) :
    (∃ failure, seen = .error failure ∧ verdict = some (.error failure)) ∨
      ∃ job, seen = .ok job ∧
        (job.state.isTerminal = true ∧ verdict = some (.ok job) ∨
          job.state.isTerminal = false ∧
            (verdict = none ∨ polling.isOverdue elapsed = true ∧
              verdict = some (.error (.plain (.timeout id job.state elapsed))))) := by
  subst hverdict
  cases seen with
  | error failure => exact .inl ⟨failure, rfl, rfl⟩
  | ok job =>
    right
    refine ⟨job, rfl, ?_⟩
    have hstate : JobSnapshot.state job = job.state := rfl
    cases hterminal : job.state.isTerminal with
    | true => exact .inl ⟨rfl, by simp [Polling.verdict?, hstate, hterminal]⟩
    | false =>
      right
      cases hoverdue : polling.isOverdue elapsed with
      | true => exact ⟨rfl, .inr ⟨rfl, by simp [Polling.verdict?, hstate, hterminal, hoverdue]⟩⟩
      | false => exact ⟨rfl, .inl (by simp [Polling.verdict?, hstate, hterminal, hoverdue])⟩

namespace Looks

variable {polling : Polling} {clock : Nat → Span} {id : String} {number : Nat}
  {acts more : List IngestAct} {result : Except Failure IngestJob}

theorem steps_eq (h : Looks polling clock id number acts result) :
    acts.map (·.step) = List.replicate acts.length (.look id) := by
  induction h with
  | last hverdict => rfl
  | again hverdict hrest ih => simp [ih, List.replicate_succ]

theorem head?_step (h : Looks polling clock id number acts result) :
    ∃ act rest, acts = act :: rest ∧ act.step = .look id := by
  cases h with
  | last hverdict => exact ⟨_, _, rfl, rfl⟩
  | again hverdict hrest => exact ⟨_, _, rfl, rfl⟩

/-- Looks lead to one another, and one that shows the job done leads to the artifacts, if they come
behind it (`hdone`, `hmore`); so all these acts are a chain. -/
theorem chain (h : Looks polling clock id number acts result)
    (hfailed : ∀ failure, result = .error failure → more = [])
    (hdone : ∀ job, result = .ok job → ∀ next ∈ more.head?,
      job.state = .jobComplete ∧ next.step = .fetch .successful job.id)
    (hmore : more.IsChain LeadsOn) : (acts ++ more).IsChain LeadsOn := by
  induction h with
  | @last number delivery seen result hverdict =>
    rcases verdict?_cases _ hverdict with ⟨failure, rfl, hresult⟩ | ⟨job, rfl, hcases⟩
    · rw [hfailed failure (Option.some.inj hresult)]
      exact .singleton _
    · rcases hcases with ⟨-, hresult⟩ | ⟨-, hresult | ⟨-, hresult⟩⟩
      · refine List.isChain_cons.mpr ⟨fun next hnext ↦ ?_, hmore⟩
        obtain ⟨hcomplete, hstep⟩ := hdone job (Option.some.inj hresult) next hnext
        exact .complete hcomplete hstep
      · cases hresult
      · rw [hfailed _ (Option.some.inj hresult)]
        exact .singleton _
  | @again number delivery seen result acts hverdict hrest ih =>
    rcases verdict?_cases _ hverdict with ⟨failure, rfl, hnone⟩ | ⟨job, rfl, hcases⟩
    · cases hnone
    · rcases hcases with ⟨-, hnone⟩ | ⟨hunfinished, -⟩
      · cases hnone
      · refine List.isChain_cons.mpr ⟨fun next hnext ↦ ?_, ih hfailed hdone⟩
        obtain ⟨act, rest, rfl, hstep⟩ := hrest.head?_step
        obtain rfl : act = next := by simpa using hnext
        exact .unfinished hunfinished hstep

/-- A job that waiting gives was shown by the last look, in a terminal state. -/
theorem of_ok {job : IngestJob} (h : Looks polling clock id number acts (.ok job)) :
    job.state.isTerminal = true ∧
      ∃ before delivery, acts = before ++ [⟨.look id, delivery, .ok (.job job)⟩] := by
  generalize hresult : Except.ok job = result at h
  induction h with
  | @last number delivery seen result hverdict =>
    subst hresult
    rcases verdict?_cases _ hverdict with ⟨failure, rfl, hjob⟩ | ⟨job', rfl, hcases⟩
    · cases hjob
    · rcases hcases with ⟨hterminal, hjob⟩ | ⟨-, hjob | ⟨-, hjob⟩⟩ <;> cases hjob
      exact ⟨hterminal, [], delivery, rfl⟩
  | again hverdict hrest ih =>
    obtain ⟨hterminal, before, delivery, rfl⟩ := ih hresult
    exact ⟨hterminal, _ :: before, delivery, rfl⟩

/-- Waiting fails with the failure of a look, or when it takes too long (`TimesOut`). -/
theorem of_error {failure : Failure} (h : Looks polling clock id number acts (.error failure)) :
    (∃ act ∈ acts, act.result = .error failure) ∨ TimesOut polling clock acts failure := by
  generalize hresult : Except.error failure = result at h
  induction h with
  | @last number delivery seen result hverdict =>
    subst hresult
    rcases verdict?_cases _ hverdict with ⟨failure', rfl, hfailure⟩ | ⟨job, rfl, hcases⟩
    · cases hfailure
      exact .inl ⟨_, List.mem_singleton_self _, rfl⟩
    · rcases hcases with ⟨-, hfailure⟩ | ⟨hunfinished, hfailure | ⟨hoverdue, hfailure⟩⟩ <;>
        cases hfailure
      exact .inr ⟨[], id, number, delivery, job, rfl, hunfinished, hoverdue, rfl⟩
  | again hverdict hrest ih =>
    rcases ih hresult with ⟨act, hact, hfailed⟩ | htimeout
    · exact .inl ⟨act, List.mem_cons_of_mem _ hact, hfailed⟩
    · exact .inr (htimeout.cons _)

end Looks

/-! ### Failures end a run -/

/-- Whether an act that fails is the last one, and the run ends with its failure; so nothing is
asked for behind a failure. -/
def EndsOnFailure {γ : Type} (acts : List IngestAct) (result : Except Failure γ) : Prop :=
  ∀ before act after failure, acts = before ++ act :: after → act.result = .error failure →
    after = [] ∧ result = .error failure

namespace EndsOnFailure

variable {γ : Type} {act : IngestAct} {acts : List IngestAct} {result : Except Failure γ}

theorem nil : EndsOnFailure [] result := by
  intro before act after failure heq
  simp at heq

theorem single {failure : Failure} (hfailed : act.result = .error failure) :
    EndsOnFailure [act] (.error failure : Except Failure γ) := by
  intro before act' after failure' heq hfailed'
  rcases before with _ | ⟨other, before⟩
  · obtain ⟨rfl, rfl⟩ := List.cons.inj heq
    rw [hfailed] at hfailed'
    cases hfailed'
    exact ⟨rfl, rfl⟩
  · simp at heq

theorem cons {gained : StepYield} (hact : act.result = .ok gained)
    (hacts : EndsOnFailure acts result) : EndsOnFailure (act :: acts) result := by
  intro before act' after failure heq hfailed
  rcases before with _ | ⟨other, before⟩
  · obtain ⟨rfl, rfl⟩ := List.cons.inj heq
    rw [hact] at hfailed
    cases hfailed
  · exact hacts before act' after failure (List.cons.inj heq).2 hfailed

theorem tail (hacts : EndsOnFailure (act :: acts) result) : EndsOnFailure acts result := by
  intro before act' after failure heq hfailed
  exact hacts (act :: before) act' after failure (by rw [heq, List.cons_append]) hfailed

end EndsOnFailure

theorem Looks.endsOnFailure {polling : Polling} {clock : Nat → Span} {id : String} {number : Nat}
    {acts more : List IngestAct} {result : Except Failure IngestJob}
    {ending : Except Failure IngestOutcome} (h : Looks polling clock id number acts result)
    (hfailed : ∀ failure, result = .error failure → more = [] ∧ ending = .error failure)
    (hdone : EndsOnFailure more ending) : EndsOnFailure (acts ++ more) ending := by
  induction h with
  | @last number delivery seen result hverdict =>
    rcases verdict?_cases _ hverdict with ⟨failure, rfl, hresult⟩ | ⟨job, rfl, -⟩
    · obtain ⟨rfl, rfl⟩ := hfailed failure (Option.some.inj hresult)
      exact .single rfl
    · exact .cons rfl hdone
  | @again number delivery seen result acts hverdict hrest ih =>
    rcases verdict?_cases _ hverdict with ⟨failure, rfl, hnone⟩ | ⟨job, rfl, -⟩
    · cases hnone
    · exact .cons rfl (ih hfailed)

namespace Fetches

variable {job : IngestJob} {acts : List IngestAct} {result : Except Failure IngestOutcome}

theorem endsOnFailure (h : Fetches job acts result) : EndsOnFailure acts result := by
  cases h with
  | skipped hdone => exact .nil
  | first hdone => exact .single rfl
  | second hdone => exact .cons rfl (.single rfl)
  | third hdone => exact .cons rfl (.cons rfl (.single rfl))
  | all hdone => exact .cons rfl (.cons rfl (.cons rfl .nil))

theorem chain (h : Fetches job acts result) : acts.IsChain LeadsOn := by
  cases h with
  | skipped hdone => exact .nil
  | first hdone => exact .singleton _
  | second hdone => exact .cons_cons (.successful rfl) (.singleton _)
  | third hdone => exact .cons_cons (.successful rfl) (.cons_cons (.failed rfl) (.singleton _))
  | all hdone => exact .cons_cons (.successful rfl) (.cons_cons (.failed rfl) (.singleton _))

theorem head?_step (h : Fetches job acts result) : ∀ next ∈ acts.head?,
    job.state = .jobComplete ∧ next.step = .fetch .successful job.id := by
  have hcomplete : job.state.isSuccess = true → job.state = .jobComplete := by
    intro hdone
    exact beq_iff_eq.mp hdone
  rintro next hnext
  cases h with
  | skipped hdone => cases hnext
  | first hdone | second hdone | third hdone | all hdone =>
    cases hnext
    exact ⟨hcomplete hdone, rfl⟩

/-- An outcome has what was read from the three artifacts if the job is complete, and nothing
otherwise. -/
theorem of_ok {outcome : IngestOutcome} (h : Fetches job acts (.ok outcome)) :
    (job.state = .jobComplete ∧ ∃ successful failed unprocessed delivery delivery' delivery'',
        outcome = ⟨job, some successful, some failed, some unprocessed⟩ ∧
        ⟨.fetch .successful job.id, delivery, .ok (.table successful)⟩ ∈ acts ∧
        ⟨.fetch .failed job.id, delivery', .ok (.table failed)⟩ ∈ acts ∧
        ⟨.fetch .unprocessed job.id, delivery'', .ok (.table unprocessed)⟩ ∈ acts) ∨
      job.state ≠ .jobComplete ∧ outcome = ⟨job, none, none, none⟩ := by
  cases h with
  | skipped hdone =>
    right
    refine ⟨fun hcomplete ↦ ?_, rfl⟩
    rw [hcomplete] at hdone
    cases hdone
  | all hdone =>
    exact .inl ⟨beq_iff_eq.mp hdone, _, _, _, _, _, _, rfl, .head _, .tail _ (.head _),
      .tail _ (.tail _ (.head _))⟩

theorem of_error {failure : Failure} (h : Fetches job acts (.error failure)) :
    ∃ act ∈ acts, act.result = .error failure := by
  cases h with
  | first hdone => exact ⟨_, .head _, rfl⟩
  | second hdone => exact ⟨_, .tail _ (.head _), rfl⟩
  | third hdone => exact ⟨_, .tail _ (.tail _ (.head _)), rfl⟩

theorem isPrefix_steps (h : Fetches job acts result) : acts.map (·.step) <+:
    [.fetch .successful job.id, .fetch .failed job.id, .fetch .unprocessed job.id] := by
  cases h with
  | skipped hdone => exact List.nil_prefix
  | first hdone => exact List.prefix_append [_] [_, _]
  | second hdone => exact List.prefix_append [_, _] [_]
  | third hdone | all hdone => exact List.prefix_rfl

end Fetches

/-! ### The paths of a run -/

/-- The steps of a run whose requests were sent, in their order; others could not be built, or their
host could not be connected to. -/
def sentSteps (acts : List IngestAct) : List IngestStep :=
  (acts.filter fun act ↦ !act.messages.isEmpty).map (·.step)

/-- Whether the data of a job is not sent: the request for it cannot be built, or an upload among
the acts meets with a host that cannot be connected to. -/
def UploadStaysUnsent (client : Client) (draft : IngestDraft) (data : Octets)
    (acts : List IngestAct) (id : String) : Prop :=
  (∃ problem, ((IngestStep.upload id).request client draft data).prepare client.org.http =
    .error problem) ∨ ∃ act ∈ acts, act.step = .upload id ∧ act.IsUnreached

/-- The steps of a run whose upload fails: the abort, and a look if that is refused. -/
def failurePath (id : String) : List IngestStep :=
  [.create, .upload id, .abort id, .look id]

/-- The steps of a run that goes to its end, with a number of looks at the job and the id that the
last of them shows. -/
def successPath (id : String) (looks : Nat) (shown : String) : List IngestStep :=
  [.create, .upload id, .close id] ++ List.replicate looks (.look id) ++
    [.fetch .successful shown, .fetch .failed shown, .fetch .unprocessed shown]

theorem sentSteps_cons_of_sent {act : IngestAct} (hsent : act.messages ≠ [])
    (acts : List IngestAct) : sentSteps (act :: acts) = act.step :: sentSteps acts := by
  simp [sentSteps, hsent]

theorem sentSteps_cons_of_unsent {act : IngestAct} (hunsent : act.messages = [])
    (acts : List IngestAct) : sentSteps (act :: acts) = sentSteps acts := by
  simp [sentSteps, hunsent]

/-- Where failures end a run (`hends`), only its last request can have stayed unsent, so the steps
that were sent begin the steps that were made. -/
theorem isPrefix_sentSteps {client : Client} {draft : IngestDraft} {data : Octets}
    {traffic traffic' : Traffic} {acts : List IngestAct} {result : Except Failure IngestOutcome}
    (hacts : Recorded client draft data traffic acts traffic')
    (hends : EndsOnFailure acts result) : sentSteps acts <+: acts.map (·.step) := by
  induction hacts with
  | nil traffic => exact List.nil_prefix
  | @cons traffic _ _ act acts hact hrest ih =>
    by_cases hsent : act.messages = []
    · obtain ⟨failure, hfailed, -⟩ := hact.error_of_unsent hsent
      obtain ⟨rfl, -⟩ := hends [] act acts failure rfl hfailed
      rw [sentSteps_cons_of_unsent hsent]
      exact List.nil_prefix
    · rw [sentSteps_cons_of_sent hsent]
      exact List.cons_prefix_cons.mpr ⟨rfl, ih hends.tail⟩

namespace Aborting

variable {client : Client} {draft : IngestDraft} {data : Octets} {traffic traffic' : Traffic}
  {id : String} {acts : List IngestAct}

/-- The job is looked at again only after an abort that was sent: the refusal that leads to the look
is a reply to it. -/
theorem isPrefix_sentSteps (h : Aborting id acts)
    (hacts : Recorded client draft data traffic acts traffic') :
    sentSteps acts <+: [.abort id, .look id] := by
  have hlast : ∀ act : IngestAct, sentSteps [act] <+: [act.step] := by
    intro act
    by_cases hsent : act.messages = []
    · rw [sentSteps_cons_of_unsent hsent]
      exact List.nil_prefix
    · rw [sentSteps_cons_of_sent hsent]
      exact List.prefix_rfl
  cases h with
  | settled hstatus => exact (hlast _).trans (List.prefix_append [_] [_])
  | @reread delivery delivery' failure result hstatus =>
    cases hacts with
    | cons hact hrest =>
      by_cases hsent : (⟨.abort id, delivery, .error failure⟩ : IngestAct).messages = []
      · obtain ⟨failure', hfailed, hnone⟩ := hact.error_of_unsent hsent
        cases hfailed
        rw [hnone] at hstatus
        rcases hstatus with h | h <;> cases h
      · rw [sentSteps_cons_of_sent hsent]
        exact List.cons_prefix_cons.mpr ⟨rfl, hlast _⟩

theorem exists_abort (h : Aborting id acts) : ∃ act ∈ acts, act.step = .abort id := by
  cases h with
  | settled hstatus | reread hstatus => exact ⟨_, .head _, rfl⟩

theorem step_ne_upload (h : Aborting id acts) {act : IngestAct} (hact : act ∈ acts)
    (other : String) : act.step ≠ .upload other := by
  intro hstep
  cases h with
  | settled hstatus =>
    obtain rfl := List.mem_singleton.mp hact
    cases hstep
  | reread hstatus =>
    rcases List.mem_pair.mp hact with rfl | rfl <;> cases hstep

end Aborting

/-! ### Uploads -/

/-- Whether every upload among some acts is accepted, so that no run with these acts turns to the
abort. -/
def UploadsSucceed (acts : List IngestAct) : Prop :=
  ∀ act ∈ acts, ∀ id, act.step = .upload id → act.result = .ok .nothing

namespace UploadsSucceed

variable {acts more : List IngestAct} {act : IngestAct}

theorem nil : UploadsSucceed [] := by
  intro act hact
  cases hact

theorem cons (hact : ∀ id, act.step = .upload id → act.result = .ok .nothing)
    (hacts : UploadsSucceed acts) : UploadsSucceed (act :: acts) :=
  List.forall_mem_cons.mpr ⟨hact, hacts⟩

theorem append (hacts : UploadsSucceed acts) (hmore : UploadsSucceed more) :
    UploadsSucceed (acts ++ more) :=
  List.forall_mem_append.mpr ⟨hacts, hmore⟩

/-- Acts that begin with a job that is created and takes its upload have no upload that fails, if
none behind them does. -/
theorem uploaded {delivery delivery' : Option Delivery} {result : Except Failure StepYield}
    {id : String} (hacts : UploadsSucceed acts) : UploadsSucceed
      (⟨.create, delivery, result⟩ :: ⟨.upload id, delivery', .ok .nothing⟩ :: acts) :=
  .cons (fun _ hstep ↦ nomatch hstep) (.cons (fun _ _ ↦ rfl) hacts)

end UploadsSucceed

theorem Looks.uploadsSucceed {polling : Polling} {clock : Nat → Span} {id : String} {number : Nat}
    {acts : List IngestAct} {result : Except Failure IngestJob}
    (h : Looks polling clock id number acts result) : UploadsSucceed acts := by
  induction h with
  | last hverdict => exact .cons (fun _ hstep ↦ nomatch hstep) .nil
  | again hverdict hrest ih => exact .cons (fun _ hstep ↦ nomatch hstep) ih

theorem Fetches.uploadsSucceed {job : IngestJob} {acts : List IngestAct}
    {result : Except Failure IngestOutcome} (h : Fetches job acts result) :
    UploadsSucceed acts := by
  intro act hact id hstep
  have hfetch : act.step ∈ [IngestStep.fetch .successful job.id, .fetch .failed job.id,
      .fetch .unprocessed job.id] :=
    h.isPrefix_steps.subset (List.mem_map_of_mem hact)
  rw [hstep] at hfetch
  simp at hfetch

/-! ### The course of a run -/

namespace Lifecycle

variable {client : Client} {polling : Polling} {clock : Nat → Span} {draft : IngestDraft}
  {data : Octets} {traffic traffic' : Traffic} {acts : List IngestAct}
  {result : Except Failure IngestOutcome}

theorem chain (h : Lifecycle polling clock draft acts result) : acts.IsChain LeadsOn := by
  cases h with
  | refused hvalid => exact .nil
  | uncreated => exact .singleton _
  | aborted haborting =>
    refine .cons_cons (.created rfl) ?_
    cases haborting with
    | settled hstatus => exact .cons_cons (.unsuccessful rfl) (.singleton _)
    | reread hstatus =>
      exact .cons_cons (.unsuccessful rfl) (.cons_cons (.refused hstatus rfl) (.singleton _))
  | unclosed => exact .cons_cons (.created rfl) (.cons_cons (.uploaded rfl) (.singleton _))
  | @unfinished _ _ _ _ _ failure looks hlooks =>
    have hchain : (looks ++ []).IsChain LeadsOn :=
      hlooks.chain (fun _ _ ↦ rfl) (fun _ h ↦ nomatch h) .nil
    rw [List.append_nil] at hchain
    obtain ⟨act, rest, rfl, hstep⟩ := hlooks.head?_step
    exact .cons_cons (.created rfl) (.cons_cons (.uploaded rfl) (.cons_cons (.closed hstep) hchain))
  | @finished _ _ _ _ _ job looks fetches result hlooks hfetches =>
    have hchain := hlooks.chain (fun _ h ↦ nomatch h) (fun job' hjob ↦ by
      cases hjob
      exact hfetches.head?_step) hfetches.chain
    obtain ⟨act, rest, rfl, hstep⟩ := hlooks.head?_step
    exact .cons_cons (.created rfl) (.cons_cons (.uploaded rfl) (.cons_cons (.closed hstep) hchain))

/-- A run ends with an abort after its upload has failed, or its acts are on the way to the results
and a failure is the end. -/
theorem aborts_or_ends (h : Lifecycle polling clock draft acts result) :
    (∃ delivery delivery' created failure more,
        acts = ⟨.create, delivery, .ok (.job created)⟩ ::
          ⟨.upload created.id, delivery', .error failure⟩ :: more ∧
        Aborting created.id more ∧ result = .error failure) ∨
      EndsOnFailure acts result ∧ UploadsSucceed acts ∧
        ∃ id looks shown, acts.map (·.step) <+: successPath id looks shown := by
  cases h with
  | refused hvalid => exact .inr ⟨.nil, .nil, "", 0, "", List.nil_prefix⟩
  | uncreated =>
    exact .inr ⟨.single rfl, .cons (fun _ hstep ↦ nomatch hstep) .nil, "", 0, "",
      List.prefix_append [_] _⟩
  | aborted haborting => exact .inl ⟨_, _, _, _, _, rfl, haborting, rfl⟩
  | @unclosed _ _ _ created =>
    exact .inr ⟨.cons rfl (.cons rfl (.single rfl)),
      .uploaded (.cons (fun _ hstep ↦ nomatch hstep) .nil), created.id, 0, "",
      List.prefix_append [_, _, _] _⟩
  | @unfinished _ _ _ created closed failure looks hlooks =>
    have hends : EndsOnFailure (looks ++ []) (.error failure : Except Failure IngestOutcome) := by
      refine hlooks.endsOnFailure (fun failure' hfailure ↦ ?_) .nil
      cases hfailure
      exact ⟨rfl, rfl⟩
    rw [List.append_nil] at hends
    have huploads := hlooks.uploadsSucceed
    refine .inr ⟨.cons rfl (.cons rfl (.cons rfl hends)),
      .uploaded (.cons (fun _ hstep ↦ nomatch hstep) huploads), created.id, looks.length, "", ?_⟩
    simp only [List.map_cons, hlooks.steps_eq]
    exact List.prefix_append _ _
  | @finished _ _ _ created closed job looks fetches result hlooks hfetches =>
    have hends := hlooks.endsOnFailure (fun _ h ↦ nomatch h) hfetches.endsOnFailure
    have huploads := hlooks.uploadsSucceed.append hfetches.uploadsSucceed
    refine .inr ⟨.cons rfl (.cons rfl (.cons rfl hends)),
      .uploaded (.cons (fun _ hstep ↦ nomatch hstep) huploads), created.id, looks.length, job.id,
      ?_⟩
    simp only [List.map_cons, List.map_append, hlooks.steps_eq]
    have hpath := (List.prefix_append_right_inj ([.create, .upload created.id, .close created.id] ++
      List.replicate looks.length (.look created.id))).mpr hfetches.isPrefix_steps
    simpa only [successPath, List.append_assoc, List.cons_append, List.nil_append] using hpath

/-- Unless an upload fails (`huploads`), any failure ends the run. -/
theorem endsOnFailure (h : Lifecycle polling clock draft acts result)
    (huploads : UploadsSucceed acts) : EndsOnFailure acts result := by
  rcases h.aborts_or_ends with
    ⟨delivery, delivery', created, failure, more, rfl, -, -⟩ | ⟨hends, -⟩
  · have hfailed := huploads _ (.tail _ (.head _)) created.id rfl
    cases hfailed
  · exact hends

/-- A run starts with the creation of a job, if its draft is fit (`hvalid`); otherwise it makes no
request. -/
theorem head?_step (h : Lifecycle polling clock draft acts result)
    (hvalid : draft.validate = .ok ()) : ∃ act rest, acts = act :: rest ∧ act.step = .create := by
  cases h with
  | refused hfailed =>
    rw [hvalid] at hfailed
    cases hfailed
  | uncreated | aborted _ | unclosed | unfinished _ | finished _ _ => exact ⟨_, _, rfl, rfl⟩

/-- A run fails with its draft, with the failure of an act, or because waiting took too long
(`TimesOut`). -/
theorem of_error {failure : Failure} (h : Lifecycle polling clock draft acts (.error failure)) :
    draft.validate = .error failure ∨ (∃ act ∈ acts, act.result = .error failure) ∨
      TimesOut polling clock acts failure := by
  cases h with
  | refused hfailed => exact .inl hfailed
  | uncreated => exact .inr (.inl ⟨_, .head _, rfl⟩)
  | aborted haborting => exact .inr (.inl ⟨_, .tail _ (.head _), rfl⟩)
  | unclosed => exact .inr (.inl ⟨_, .tail _ (.tail _ (.head _)), rfl⟩)
  | unfinished hlooks =>
    right
    rcases hlooks.of_error with ⟨act, hact, hfailed⟩ | htimeout
    · exact .inl ⟨act, .tail _ (.tail _ (.tail _ hact)), hfailed⟩
    · exact .inr (((htimeout.cons _).cons _).cons _)
  | finished hlooks hfetches =>
    obtain ⟨act, hact, hfailed⟩ := hfetches.of_error
    exact .inr (.inl
      ⟨act, .tail _ (.tail _ (.tail _ (List.mem_append_right _ hact))), hfailed⟩)

/-- After an upload that fails (`hfailed`) comes an abort, whatever that comes to, and the failure
of the upload is the result. -/
theorem error_of_upload (h : Lifecycle polling clock draft acts result) {act : IngestAct}
    (hact : act ∈ acts) {id : String} (hstep : act.step = .upload id) {failure : Failure}
    (hfailed : act.result = .error failure) :
    (∃ abort ∈ acts, abort.step = .abort id) ∧ result = .error failure := by
  rcases h.aborts_or_ends with
    ⟨delivery, delivery', created, failure', more, rfl, haborting, rfl⟩ | ⟨-, huploads, -⟩
  · obtain ⟨abort, habort, habortStep⟩ := haborting.exists_abort
    rcases List.mem_cons.mp hact with rfl | hact
    · cases hstep
    rcases List.mem_cons.mp hact with rfl | hact
    · cases hstep
      cases hfailed
      exact ⟨⟨abort, .tail _ (.tail _ habort), habortStep⟩, rfl⟩
    · exact absurd hstep (haborting.step_ne_upload hact id)
  · rw [huploads act hact id hstep] at hfailed
    cases hfailed

/-- The requests of a run that were sent are those of one of the two paths, without the upload if it
could not be built or its host not be connected to. -/
theorem sentSteps_path (h : Lifecycle polling clock draft acts result)
    (hacts : Recorded client draft data traffic acts traffic') :
    ∃ id, sentSteps acts <+: failurePath id ∨
      (∃ looks shown, sentSteps acts <+: successPath id looks shown) ∨
      sentSteps acts <+: [.create, .abort id, .look id] ∧
        UploadStaysUnsent client draft data acts id := by
  rcases h.aborts_or_ends with
    ⟨delivery, delivery', created, failure, more, rfl, haborting, rfl⟩ |
      ⟨hends, -, id, looks, shown, hsteps⟩
  · refine ⟨created.id, ?_⟩
    cases hacts with
    | cons hcreate hrest =>
      cases hrest with
      | cons hupload hmore =>
        have hpath := haborting.isPrefix_sentSteps hmore
        have hcreated : (⟨.create, delivery, .ok (.job created)⟩ : IngestAct).messages ≠ [] := by
          intro hunsent
          obtain ⟨failure', hfailed, -⟩ := hcreate.error_of_unsent hunsent
          cases hfailed
        rw [sentSteps_cons_of_sent hcreated]
        by_cases hsent :
            (⟨.upload created.id, delivery', .error failure⟩ : IngestAct).messages = []
        · right
          right
          rw [sentSteps_cons_of_unsent hsent]
          refine ⟨List.cons_prefix_cons.mpr ⟨rfl, hpath⟩, ?_⟩
          rcases hupload.messages_eq_nil_iff.mp hsent with hunbuilt | hrefused
          · obtain ⟨problem, hprepare, -⟩ := hupload.of_unbuilt hunbuilt
            exact .inl ⟨problem, hprepare⟩
          · exact .inr ⟨_, .tail _ (.head _), rfl, hrefused⟩
        · left
          rw [sentSteps_cons_of_sent hsent]
          exact List.cons_prefix_cons.mpr ⟨rfl, List.cons_prefix_cons.mpr ⟨rfl, hpath⟩⟩
  · exact ⟨id, .inr (.inl ⟨looks, shown, (isPrefix_sentSteps hacts hends).trans hsteps⟩)⟩

end Lifecycle

/-! ### Outcomes -/

/-- Whether a result set is what the body of an artifact of a job parses to, as an act of the run
fetched it. -/
def IsFetched (delimiter : ColumnDelimiter) (acts : List IngestAct) (artifact : Artifact)
    (id : String) (set : ResultSet) : Prop :=
  ∃ act ∈ acts, ∃ delivery, act.step = .fetch artifact id ∧ act.delivery = some delivery ∧
    ResultBody.asSet delimiter delivery.reply.carriedBody = .ok set

theorem isFetched_of_mem {client : Client} {draft : IngestDraft} {data : Octets}
    {traffic traffic' : Traffic} {acts : List IngestAct}
    (hacts : Recorded client draft data traffic acts traffic') {artifact : Artifact} {id : String}
    {delivery : Option Delivery} {set : ResultSet}
    (hmem : ⟨.fetch artifact id, delivery, .ok (.table set)⟩ ∈ acts) :
    IsFetched draft.columnDelimiter acts artifact id set := by
  obtain ⟨before, after, hact⟩ := hacts.happens hmem
  obtain ⟨⟨delivered, response, hdelivery, hanswer, hread⟩, -⟩ := hact.of_ok rfl
  refine ⟨_, hmem, delivered, rfl, hdelivery, ?_⟩
  have hread' : (response.streamBytes.mapError Failure.ofHttp).bind (fun body ↦
      (ResultBody.asSet draft.columnDelimiter body).map StepYield.table) = .ok (.table set) := hread
  rw [Http.Response.streamBytes] at hread'
  split_ifs at hread' with hbroken
  · cases hread'
  · rw [← Delivery.body_of_answer hanswer]
    have hset : (ResultBody.asSet draft.columnDelimiter response.body).map StepYield.table =
        .ok (.table set) := hread'
    cases hparse : ResultBody.asSet draft.columnDelimiter response.body with
    | error failure =>
      rw [hparse] at hset
      cases hset
    | ok parsed =>
      rw [hparse] at hset
      cases hset
      rfl

/-- Whether an outcome is what the acts of a run have shown: a job in a terminal state and, exactly
when it is complete, its artifacts. -/
structure IngestOutcome.IsShown (outcome : IngestOutcome) (delimiter : ColumnDelimiter)
    (acts : List IngestAct) : Prop where
  terminal : outcome.job.state.isTerminal = true
  looked : ∃ id delivery, ⟨.look id, delivery, .ok (.job outcome.job)⟩ ∈ acts
  complete : outcome.job.state = .jobComplete → ∃ successful failed unprocessed,
    outcome.successful = some successful ∧
      IsFetched delimiter acts .successful outcome.job.id successful ∧
    outcome.failed = some failed ∧ IsFetched delimiter acts .failed outcome.job.id failed ∧
    outcome.unprocessed = some unprocessed ∧
      IsFetched delimiter acts .unprocessed outcome.job.id unprocessed
  incomplete : outcome.job.state ≠ .jobComplete →
    outcome.successful = none ∧ outcome.failed = none ∧ outcome.unprocessed = none

/-- A run that gives an outcome has looked until the job was done (`Looks`), and then fetched its
artifacts, if there were any to fetch (`Fetches`). -/
theorem Lifecycle.of_ok {polling : Polling} {clock : Nat → Span} {draft : IngestDraft}
    {acts : List IngestAct} {outcome : IngestOutcome}
    (h : Lifecycle polling clock draft acts (.ok outcome)) : ∃ before id looks fetches job,
      acts = before ++ (looks ++ fetches) ∧ Looks polling clock id 0 looks (.ok job) ∧
        Fetches job fetches (.ok outcome) := by
  cases h with
  | finished hlooks hfetches => exact ⟨[_, _, _], _, _, _, _, rfl, hlooks, hfetches⟩

theorem Lifecycle.isShown {client : Client} {polling : Polling} {clock : Nat → Span}
    {draft : IngestDraft} {data : Octets} {traffic traffic' : Traffic} {acts : List IngestAct}
    {outcome : IngestOutcome} (h : Lifecycle polling clock draft acts (.ok outcome))
    (hacts : Recorded client draft data traffic acts traffic') :
    outcome.IsShown draft.columnDelimiter acts := by
  obtain ⟨before, id, looks, fetches, job, rfl, hlooks, hfetches⟩ := h.of_ok
  obtain ⟨hterminal, unfinished, delivery, hlast⟩ := hlooks.of_ok
  have hlook : ⟨.look id, delivery, .ok (.job job)⟩ ∈ looks := hlast ▸ List.mem_concat_self
  have hlooked : ⟨.look id, delivery, .ok (.job job)⟩ ∈ before ++ (looks ++ fetches) :=
    List.mem_append_right before (List.mem_append_left fetches hlook)
  have hfetched : ∀ {artifact delivery set},
      ⟨.fetch artifact job.id, delivery, .ok (.table set)⟩ ∈ fetches →
        IsFetched draft.columnDelimiter (before ++ (looks ++ fetches)) artifact job.id set :=
    fun hfetch ↦ isFetched_of_mem hacts
      (List.mem_append_right before (List.mem_append_right looks hfetch))
  rcases hfetches.of_ok with
    ⟨hcomplete, successful, failed, unprocessed, _, _, _, rfl, hfirst, hsecond, hthird⟩ |
      ⟨hincomplete, rfl⟩
  · exact ⟨hterminal, ⟨id, delivery, hlooked⟩, fun _ ↦ ⟨successful, failed, unprocessed, rfl,
      hfetched hfirst, rfl, hfetched hsecond, rfl, hfetched hthird⟩,
      fun hne ↦ absurd hcomplete hne⟩
  · exact ⟨hterminal, ⟨id, delivery, hlooked⟩, fun hcomplete ↦ absurd hcomplete hincomplete,
      fun _ ↦ ⟨rfl, rfl, rfl⟩⟩

/-! ### Every run -/

/-- What holds of the acts and the result of a run: which requests it makes in which order, what a
failure of each leads to, and where its outcome comes from. -/
structure OrderlyRun (client : Client) (clock : Nat → Span) (draft : IngestDraft) (data : Octets)
    (acts : List IngestAct) (result : Except Failure IngestOutcome) : Prop where
  begins : draft.validate = .ok () → ∃ act rest, acts = act :: rest ∧ act.step = .create
  path : ∃ id, sentSteps acts <+: failurePath id ∨
    (∃ looks shown, sentSteps acts <+: successPath id looks shown) ∨
    sentSteps acts <+: [.create, .abort id, .look id] ∧
      UploadStaysUnsent client draft data acts id
  chain : acts.IsChain LeadsOn
  upload : ∀ act ∈ acts, ∀ id failure, act.step = .upload id → act.result = .error failure →
    (∃ abort ∈ acts, abort.step = .abort id) ∧ result = .error failure
  ends : UploadsSucceed acts → EndsOnFailure acts result
  failure : ∀ failure, result = .error failure → draft.validate = .error failure ∨
    (∃ act ∈ acts, act.result = .error failure) ∨ TimesOut client.polling clock acts failure
  outcome : ∀ outcome, result = .ok outcome → outcome.IsShown draft.columnDelimiter acts

/-- Every run of an ingest job sends the requests of its acts, with the redirects that are followed
for them, and nothing else, and its acts and its result are in order: the requests are those of one
of the two paths, where an upload that cannot be built or whose host cannot be connected to is left
out; each act leaves room for the next one; an upload that fails leads to an abort and its failure
is the result, while any other failure ends the run; and an outcome is what the acts have shown. -/
theorem runIngest_orderly (client : Client) (clock : Nat → Span) (draft : IngestDraft)
    (data : Octets) (traffic : Traffic) : ∃ acts,
      Recorded client draft data traffic acts (client.runIngest clock draft data traffic).2 ∧
        (client.runIngest clock draft data traffic).2.sent =
          traffic.sent ++ acts.flatMap (·.messages) ∧
        OrderlyRun client clock draft data acts (client.runIngest clock draft data traffic).1 := by
  obtain ⟨acts, hacts, hlife⟩ := client.runIngest_account clock draft data traffic
  refine ⟨acts, hacts, hacts.sent_eq, ?_⟩
  constructor
  case begins => exact hlife.head?_step
  case path => exact hlife.sentSteps_path hacts
  case chain => exact hlife.chain
  case upload =>
    intro act hact id failure hstep hfailed
    exact hlife.error_of_upload hact hstep hfailed
  case ends => exact hlife.endsOnFailure
  case failure =>
    intro failure hfailure
    rw [hfailure] at hlife
    exact hlife.of_error
  case outcome =>
    intro outcome houtcome
    rw [houtcome] at hlife
    exact hlife.isShown hacts

/-- With a long API version a draft that is fit leads to the creation of a job and to its abort, and
nothing is uploaded in between; so what is sent is on no path that goes on with the upload. -/
theorem upload_left_out : IngestDraft.sample.validate = .ok () ∧
    ((Client.withVersion (.ofList (List.replicate 65490 'a'))).runIngest (fun _ ↦ .ofSeconds 0)
      .sample [] { replies := [jobReply, jobReply] }).2.sent.map (·.method) = [.post, .patch] ∧
    ∀ rest, ¬[Http.Method.post, .patch] <+: .post :: .put :: rest := by
  have hvalid : IngestDraft.sample.validate = .ok () := by decide +kernel
  have hplain : ∀ c ∈ (String.ofList (List.replicate 65490 'a')).toList, Url.isPlain c = true := by
    rw [String.toList_ofList]
    intro c hc
    rw [List.eq_of_mem_replicate hc]
    decide
  have hlength : (String.ofList (List.replicate 65490 'a')).toList.length = 65490 := by
    rw [String.toList_ofList, List.length_replicate]
  obtain ⟨job, hshows, hid⟩ := jobReply_shows
  generalize String.ofList (List.replicate 65490 'a') = version at hplain hlength ⊢
  obtain ⟨hcreate, habort, hupload⟩ := prepare_of_length hplain hlength .sample []
    (Client.withVersion version).org.http
  rw [← hid] at habort hupload
  refine ⟨hvalid, methods_of_unfit hshows hvalid hcreate habort hupload _, fun rest ↦ ?_⟩
  simp

end BulkJobs
