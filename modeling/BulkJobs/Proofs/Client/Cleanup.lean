import BulkJobs.Proofs.Client.IngestRun

/-!
# Jobs that a failed run leaves behind

A run that fails after it has created a job, and before the service has accepted that the job is
closed, fails with the upload or with the request to close the job. After an upload that failed the
job is aborted, if the request for it can be built and its host be connected to
(`IngestStep.IsSendable`); after a refused or lost request to close it, nothing more is sent and the
job stays open (`runIngest_abort_iff`, `closing_refused`).
-/

set_option autoImplicit false
set_option relaxedAutoImplicit false

namespace BulkJobs

open Http (Delivery Traffic)

variable {client : Client} {draft : IngestDraft} {data : Octets} {traffic traffic' : Traffic}

/-- An act that gained something (`hresult`) was answered with a reply of success, at least its head
(`IsAccepted`). -/
theorem IngestAct.Happens.isAccepted {act : IngestAct} {gained : StepYield}
    (h : act.Happens client draft data traffic traffic') (hresult : act.result = .ok gained) :
    act.IsAccepted := by
  obtain ⟨⟨delivery, response, hdelivery, hanswer, -⟩, -⟩ := h.of_ok hresult
  exact ⟨delivery, response, hdelivery, hanswer⟩

theorem mem_sentSteps_cons_of_ne {step : IngestStep} {act : IngestAct} (hne : step ≠ act.step)
    (acts : List IngestAct) : step ∈ sentSteps (act :: acts) ↔ step ∈ sentSteps acts := by
  by_cases hsent : act.messages = []
  · rw [sentSteps_cons_of_unsent hsent]
  · rw [sentSteps_cons_of_sent hsent, List.mem_cons]
    exact or_iff_right hne

/-- Whether a step of a run is fit to be sent: its request can be built, and no act of that step
meets with a host that cannot be connected to. -/
def IngestStep.IsSendable (client : Client) (draft : IngestDraft) (data : Octets)
    (acts : List IngestAct) (step : IngestStep) : Prop :=
  (∃ message, (step.request client draft data).prepare client.org.http = .ok message) ∧
    ∀ act ∈ acts, act.step = step → ¬act.IsUnreached

/-- Acts of other steps (`hne`) do not make a step unfit, as only acts of the step itself count. -/
theorem isSendable_cons_of_ne {step : IngestStep} {act : IngestAct} (hne : act.step ≠ step)
    (acts : List IngestAct) : step.IsSendable client draft data (act :: acts) ↔
      step.IsSendable client draft data acts := by
  rw [IngestStep.IsSendable, IngestStep.IsSendable, List.forall_mem_cons]
  exact and_congr_right fun _ ↦ and_iff_right fun hstep ↦ absurd hstep hne

/-- The abort that follows a failed upload is sent exactly when its request can be built and its
host be connected to (`IngestStep.IsSendable`). -/
theorem Aborting.mem_sentSteps_iff {id : String} {acts : List IngestAct} (h : Aborting id acts)
    (hacts : Recorded client draft data traffic acts traffic') :
    IngestStep.abort id ∈ sentSteps acts ↔
      (IngestStep.abort id).IsSendable client draft data acts := by
  have hfirst : ∃ delivery result more, acts = ⟨.abort id, delivery, result⟩ :: more ∧
      IngestStep.abort id ∉ sentSteps more ∧ ∀ act ∈ more, act.step ≠ .abort id := by
    cases h with
    | settled hstatus => exact ⟨_, _, [], rfl, List.not_mem_nil, by simp⟩
    | reread hstatus =>
      refine ⟨_, _, _, rfl, ?_, by simp⟩
      exact mt (mem_sentSteps_cons_of_ne (by simp) []).mp List.not_mem_nil
  obtain ⟨delivery, result, more, rfl, hmore, hother⟩ := hfirst
  cases hacts with
  | cons hact hrest =>
    by_cases hsent : (⟨.abort id, delivery, result⟩ : IngestAct).messages = []
    · rw [sentSteps_cons_of_unsent hsent]
      refine iff_of_false hmore ?_
      rintro ⟨⟨message, hmessage⟩, hreached⟩
      rcases hact.messages_eq_nil_iff.mp hsent with hunbuilt | hrefused
      · obtain ⟨problem, hprepare, -⟩ := hact.of_unbuilt hunbuilt
        rw [hmessage] at hprepare
        cases hprepare
      · exact hreached _ List.mem_cons_self rfl hrefused
    · rw [sentSteps_cons_of_sent hsent]
      refine iff_of_true List.mem_cons_self ⟨?_, ?_⟩
      · cases delivery with
        | none => exact absurd rfl hsent
        | some delivery => exact ⟨delivery.message, (hact.of_delivery rfl).1⟩
      · refine List.forall_mem_cons.mpr ⟨fun _ hrefused ↦ ?_, fun act hact hstep ↦ ?_⟩
        · exact hsent (hact.messages_eq_nil_iff.mpr (.inr hrefused))
        · exact absurd hstep (hother act hact)

/-- A run that fails after the creation of a job, with no request to close the job accepted, has
sent the abort of the job exactly when the upload failed and the abort could be sent. -/
theorem Lifecycle.abort_mem_sentSteps_iff {polling : Polling} {clock : Nat → Span}
    {acts : List IngestAct} {delivery : Option Delivery} {created : IngestJob} {failure : Failure}
    (h : Lifecycle polling clock draft (⟨.create, delivery, .ok (.job created)⟩ :: acts)
      (.error failure))
    (hacts : Recorded client draft data traffic
      (⟨.create, delivery, .ok (.job created)⟩ :: acts) traffic')
    (hclose : ∀ act ∈ acts, act.step = .close created.id → ¬act.IsAccepted) :
    IngestStep.abort created.id ∈ sentSteps acts ↔
      (∃ act ∈ acts, act.step = .upload created.id ∧ act.result = .error failure) ∧
        (IngestStep.abort created.id).IsSendable client draft data acts := by
  have haccepted : ∀ {delivery closed},
      ⟨.close created.id, delivery, .ok (.job closed)⟩ ∉ acts := by
    intro delivery closed hmem
    obtain ⟨before, after, hact⟩ := hacts.happens (List.mem_cons_of_mem _ hmem)
    exact hclose _ hmem rfl (hact.isAccepted rfl)
  cases hacts with
  | cons hcreate hrest =>
    cases h with
    | aborted haborting =>
      cases hrest with
      | cons hupload hmore =>
        rw [mem_sentSteps_cons_of_ne (by simp), isSendable_cons_of_ne (by simp),
          haborting.mem_sentSteps_iff hmore]
        exact (and_iff_right ⟨_, List.mem_cons_self, rfl, rfl⟩).symm
    | unclosed =>
      rw [mem_sentSteps_cons_of_ne (by simp), mem_sentSteps_cons_of_ne (by simp)]
      refine iff_of_false List.not_mem_nil ?_
      rintro ⟨⟨act, hact, hstep, hfailed⟩, -⟩
      rcases List.mem_cons.mp hact with rfl | hact
      · cases hfailed
      · obtain rfl := List.mem_singleton.mp hact
        cases hstep
    | unfinished hlooks => exact absurd (.tail _ (.head _)) haccepted
    | finished hlooks hfetches => exact absurd (.tail _ (.head _)) haccepted

/-- In every run, if a job was created and the run fails with no request to close the job accepted,
the abort of the job was sent exactly when it was the upload that failed, the request for the abort
could be built and its host be connected to. -/
theorem runIngest_abort_iff (client : Client) (clock : Nat → Span) (draft : IngestDraft)
    (data : Octets) (traffic : Traffic) : ∃ acts,
      Recorded client draft data traffic acts (client.runIngest clock draft data traffic).2 ∧
        (client.runIngest clock draft data traffic).2.sent =
          traffic.sent ++ acts.flatMap (·.messages) ∧
        ∀ delivery created rest failure,
          acts = ⟨.create, delivery, .ok (.job created)⟩ :: rest →
          (client.runIngest clock draft data traffic).1 = .error failure →
          (∀ act ∈ acts, act.step = .close created.id → ¬act.IsAccepted) →
          (IngestStep.abort created.id ∈ sentSteps acts ↔
            (∃ act ∈ acts, act.step = .upload created.id ∧ act.result = .error failure) ∧
              (IngestStep.abort created.id).IsSendable client draft data acts) := by
  obtain ⟨acts, hacts, hlife⟩ := client.runIngest_account clock draft data traffic
  refine ⟨acts, hacts, hacts.sent_eq, ?_⟩
  rintro delivery created rest failure rfl hfailed hclose
  rw [hfailed] at hlife
  rw [mem_sentSteps_cons_of_ne (by simp), isSendable_cons_of_ne (by simp),
    hlife.abort_mem_sentSteps_iff hacts fun act hact ↦ hclose act (.tail _ hact)]
  refine and_congr_left fun _ ↦ ⟨?_, ?_⟩
  · rintro ⟨act, hact, hupload⟩
    exact ⟨act, .tail _ hact, hupload⟩
  · rintro ⟨act, hact, hstep, hresult⟩
    rcases List.mem_cons.mp hact with rfl | hact
    · cases hstep
    · exact ⟨act, hact, hstep, hresult⟩

/-- When the service refuses to close a job, the run fails without any request to abort the job: the
messages are those of creation, upload and closing, and no other. -/
theorem closing_refused : IngestDraft.sample.validate = .ok () ∧
    ((({ org := Org.sample } : Client).runIngest (fun _ ↦ .ofSeconds 0) .sample []
        { replies := [jobReply, { status := 201 }, { status := 500 }] }).1.isOk = false) ∧
      (({ org := Org.sample } : Client).runIngest (fun _ ↦ .ofSeconds 0) .sample []
        { replies := [jobReply, { status := 201 }, { status := 500 }] }).2.sent.map
          (fun message ↦ (message.method, message.body)) =
        [(.post, Utf8.encode IngestDraft.sample.encode.compact), (.put, []),
          (.patch, Utf8.encode (Client.stateChange .uploadComplete).compact)] := by
  decide +kernel

end BulkJobs
