import BulkJobs.Proofs.Client.WatchTask

/-!
# What can be received from a watch

A receiver that takes each event as soon as it has entered the channel (`WatchState.IsHeard`) hears
look after look (`exists_watchRun_of_none`), to the look that decides (`exists_watchRun`) or over
any number of looks (`exists_watchRun_tale`). A run can stop short wherever its receiver has
received less (`WatchRun.exists_of_prefix`). So what can be received from the task of a watch is
exactly the beginnings of what a watch tells that nothing interrupts (`exists_watchRun_iff`). An
observer who leaves when there is no more room receives such a beginning
(`isPrefix_take_watchFrom`), also on a network (`exists_watchRun_of_watchJob`).
-/

set_option autoImplicit false
set_option relaxedAutoImplicit false

namespace BulkJobs

open JobSnapshot (state)
open Http (Traffic)

/-- Whether somebody listens to a watch and has received all that has entered the channel, so that
there is room for the next event. -/
structure WatchState.IsHeard {α : Type} (s : WatchState α) : Prop where
  listens : s.receiver = .listening
  nothingWaits : s.channel = []

theorem WatchState.IsHeard.length_lt {α : Type} {s : WatchState α} (hs : s.IsHeard) :
    s.channel.length < capacity := by
  rw [hs.nothingWaits]
  exact Nat.zero_lt_succ 15

namespace Polling

variable {α : Type} [JobSnapshot α] {polling : Polling} {id : String} {clock : Nat → Span}
  {seen : Nat → Except Failure α} {s s' s'' : WatchState α} {act : WatchAct}
  {acts acts' : List WatchAct}

/-! ### A receiver that takes each event at once -/

/-- An event that enters an empty channel (`hs`) can be received at once, and then the channel is
empty again. -/
theorem WatchStep.exists_receive (h : polling.WatchStep id clock seen s .put s')
    (hs : s.IsHeard) : ∃ acts s'', polling.WatchRun id clock seen s acts s'' ∧ s''.IsHeard ∧
      s''.number = s'.number ∧ s''.position = s'.position := by
  obtain ⟨event, hlistens, hchannel⟩ : ∃ event, s'.receiver = .listening ∧
      s'.channel = s.channel ++ [event] := by
    cases h with
    | report _ hlistens _ => exact ⟨_, hlistens, rfl⟩
    | finish _ hlistens _ => exact ⟨_, hlistens, rfl⟩
  rw [hs.nothingWaits, List.nil_append] at hchannel
  exact ⟨_, _, .cons h (.cons (.receive (by rw [hlistens]; decide) hchannel) (.nil _)),
    ⟨hlistens, rfl⟩, rfl, rfl⟩

/-- A look is made where the task is ready for one (`hready`), and the state that it shows is
reported and received, before the task turns to what comes behind the look. -/
theorem exists_report (hs : s.IsHeard) (hready : s.position = .ready) {job : α}
    (hseen : seen s.number = .ok job) : ∃ acts s', polling.WatchRun id clock seen s acts s' ∧
      s'.IsHeard ∧ s'.number = s.number ∧
      s'.position = polling.positionAfter id (clock s.number) job := by
  by_cases hlast : s.last = some (state job)
  · exact ⟨_, _, .cons (.look hready hs.listens) (.cons (.unchanged rfl hseen hlast) (.nil _)),
      ⟨hs.listens, hs.nothingWaits⟩, rfl, rfl⟩
  · have hput : polling.WatchStep id clock seen { s with position := .reporting job } .put _ :=
      .report rfl hs.listens hs.length_lt
    obtain ⟨acts, s', hrun, hheard, hnumber, hposition⟩ :=
      hput.exists_receive ⟨hs.listens, hs.nothingWaits⟩
    exact ⟨_, s', .cons (.look hready hs.listens) (.cons (.changed rfl hseen hlast) hrun),
      hheard, hnumber, hposition⟩

theorem exists_watchRun_of_none (hs : s.IsHeard) (hready : s.position = .ready)
    (hverdict : polling.verdict? id (clock s.number) (seen s.number) = none) :
    ∃ acts s', polling.WatchRun id clock seen s acts s' ∧ s'.IsHeard ∧
      s'.number = s.number + 1 ∧ s'.position = .ready := by
  obtain ⟨job, hseen⟩ := exists_job_of_verdict? hverdict
  obtain ⟨acts, s', hrun, hheard, hnumber, hposition⟩ := exists_report hs hready hseen
  have hpausing : s'.position = .pausing := by
    rw [hposition, positionAfter, ← hseen, hverdict]
  exact ⟨_, _, hrun.append (.cons (.wake hpausing) (.nil _)),
    ⟨hheard.listens, hheard.nothingWaits⟩, congrArg (· + 1) hnumber, rfl⟩

theorem exists_watchRun_of_some (hs : s.IsHeard) (hready : s.position = .ready)
    {result : Except Failure α}
    (hverdict : polling.verdict? id (clock s.number) (seen s.number) = some result) :
    ∃ acts s', polling.WatchRun id clock seen s acts s' ∧ s'.IsHeard ∧
      s'.number = s.number ∧ s'.position = .ended := by
  obtain ⟨acts, s', hrun, hheard, hnumber, hclosing⟩ : ∃ acts s',
      polling.WatchRun id clock seen s acts s' ∧ s'.IsHeard ∧ s'.number = s.number ∧
        s'.position = .closing result := by
    cases hseen : seen s.number with
    | error failure =>
      rw [hseen] at hverdict
      cases hverdict
      exact ⟨_, _, .cons (.look hready hs.listens) (.cons (.failed rfl hseen) (.nil _)),
        ⟨hs.listens, hs.nothingWaits⟩, rfl, rfl⟩
    | ok job =>
      obtain ⟨acts, s', hrun, hheard, hnumber, hposition⟩ := exists_report hs hready hseen
      refine ⟨acts, s', hrun, hheard, hnumber, ?_⟩
      rw [hposition, positionAfter, ← hseen, hverdict]
  have hput : polling.WatchStep id clock seen s' .put _ :=
    .finish hclosing hheard.listens hheard.length_lt
  obtain ⟨acts', last, hrest, hlast, hsame, hended⟩ := hput.exists_receive hheard
  exact ⟨_, last, hrun.append hrest, hlast, hsame.trans hnumber, hended⟩

/-- Looks that leave the job unfinished (`hunfinished`) are all made before a receiver that listens,
and their events are all received. -/
theorem exists_watchRun_of_leaveUnfinished {count : Nat}
    (hunfinished : polling.LeaveUnfinished id clock seen 0 count) : ∃ acts s,
      polling.WatchRun id clock seen {} acts s ∧ s.IsHeard ∧ s.number = count ∧
        s.position = .ready := by
  induction count with
  | zero => exact ⟨[], {}, .nil _, ⟨rfl, rfl⟩, rfl, rfl⟩
  | succ count ih =>
    obtain ⟨acts, s, hrun, hheard, rfl, hready⟩ :=
      ih fun k hk ↦ hunfinished k (Nat.lt_succ_of_lt hk)
    have hnone := hunfinished s.number (Nat.lt_succ_self _)
    rw [Nat.zero_add] at hnone
    obtain ⟨acts', s', hrest, hnext⟩ := exists_watchRun_of_none hheard hready hnone
    exact ⟨_, s', hrun.append hrest, hnext⟩

/-- A watch whose looks decide at some point (`EndsAt`) can come to its end before a receiver that
listens to all of it. -/
theorem exists_watchRun {count : Nat} {result : Except Failure α}
    (hends : polling.EndsAt id clock seen count result) : ∃ acts s,
      polling.WatchRun id clock seen {} acts s ∧ s.IsHeard ∧ s.number = count ∧
        s.position = .ended := by
  obtain ⟨hbefore, hverdict⟩ := decidedBy_iff.mpr hends
  obtain ⟨acts, s, hrun, hheard, rfl, hready⟩ := exists_watchRun_of_leaveUnfinished hbefore
  obtain ⟨acts', s', hrest, hlast⟩ := exists_watchRun_of_some hheard hready hverdict
  exact ⟨_, s', hrun.append hrest, hlast⟩

/-- All that a watch tells of any number of looks (`tale`) can be received from its task. -/
theorem exists_watchRun_tale (polling : Polling) (id : String) (clock : Nat → Span)
    (seen : Nat → Except Failure α) (limit : Nat) : ∃ acts s,
      polling.WatchRun id clock seen {} acts s ∧
        s.received = polling.tale id clock seen limit 0 none := by
  obtain ⟨acts, s, hrun, hheard, hlooks, huntold⟩ : ∃ acts s,
      polling.WatchRun id clock seen {} acts s ∧ s.IsHeard ∧ s.looks ≤ limit ∧
        polling.untold id clock seen limit s = [] := by
    rcases loops_glance polling id clock seen limit with
      ⟨count, hcount, result, hdecided, -⟩ | ⟨hunfinished, -⟩
    · obtain ⟨acts, s, hrun, hheard, rfl, hended⟩ := exists_watchRun (decidedBy_iff.mp hdecided)
      exact ⟨acts, s, hrun, hheard, s.looks_le.trans hcount, by rw [untold, hended]⟩
    · obtain ⟨acts, s, hrun, hheard, rfl, hready⟩ :=
        exists_watchRun_of_leaveUnfinished hunfinished
      refine ⟨acts, s, hrun, hheard, ?_, ?_⟩
      · rw [WatchState.looks, hready]
      · rw [untold, hready]
        simp only [Nat.sub_self]
        rfl
  have hwhole := (hrun.isFaithful (isFaithful_start polling id clock seen)).isWhole
    hheard.listens limit hlooks
  rw [hheard.nothingWaits, huntold, List.append_nil, List.append_nil] at hwhole
  exact ⟨acts, s, hrun, hwhole⟩

/-! ### A receiver that has had enough -/

/-- An act adds an event to what was received, or none; so what was received grows event by event.
-/
theorem WatchStep.received_eq (h : polling.WatchStep id clock seen s act s') :
    s'.received = s.received ∨ ∃ event, s'.received = s.received ++ [event] := by
  cases h with
  | receive _ _ => exact .inr ⟨_, rfl⟩
  | _ => exact .inl rfl

theorem WatchRun.isPrefix_received (h : polling.WatchRun id clock seen s acts s') :
    s.received <+: s'.received := by
  induction h with
  | nil s => exact List.prefix_rfl
  | cons hstep hrest ih =>
    refine List.IsPrefix.trans ?_ ih
    rcases hstep.received_eq with hsame | ⟨event, hmore⟩
    · exact hsame ▸ List.prefix_rfl
    · exact hmore ▸ List.prefix_append _ _

/-- A run can stop where its receiver has received less (`told`), as long as it has received what
was there at the start (`hfrom`). -/
theorem WatchRun.exists_of_prefix (h : polling.WatchRun id clock seen s acts s')
    {told : List (JobEvent α)} (hfrom : s.received <+: told) (hto : told <+: s'.received) :
    ∃ acts' s'', polling.WatchRun id clock seen s acts' s'' ∧ s''.received = told := by
  induction h with
  | nil s => exact ⟨[], s, .nil s, hfrom.eq_of_length_le hto.length_le⟩
  | @cons s between s' act acts hstep hrest ih =>
    by_cases hstop : s.received = told
    · exact ⟨[], s, .nil s, hstop⟩
    · have hnext : between.received <+: told := by
        refine (List.prefix_or_prefix_of_prefix hrest.isPrefix_received hto).elim
          (fun h ↦ h) fun hless ↦ ?_
        rcases hstep.received_eq with hsame | ⟨event, hmore⟩
        · exact hsame ▸ hfrom
        · rw [hmore] at hless ⊢
          rcases List.prefix_concat_iff.mp hless with hequal | hbefore
          · exact hequal ▸ List.prefix_rfl
          · exact absurd (hfrom.eq_of_length_le hbefore.length_le) hstop
      obtain ⟨acts', s'', hrun, hreceived⟩ := ih hnext hto
      exact ⟨_, s'', .cons hstep hrun, hreceived⟩

/-- What can be received from the task of a watch are the beginnings of what a watch tells that
nothing interrupts, for any number of looks, and nothing else. -/
theorem exists_watchRun_iff {told : List (JobEvent α)} :
    (∃ acts s, polling.WatchRun id clock seen {} acts s ∧ s.received = told) ↔
      ∃ more, told <+: (polling.watchFrom id clock (glance seen) more 0 none none 0).1 := by
  constructor
  · rintro ⟨acts, s, hrun, rfl⟩
    refine ⟨s.number, ?_⟩
    rw [watchFrom_glance_eq]
    exact (List.prefix_append _ _).trans
      ((hrun.isFaithful (isFaithful_start polling id clock seen)).isPrefix _ s.looks_le)
  · rintro ⟨more, htold⟩
    rw [watchFrom_glance_eq] at htold
    obtain ⟨acts, s, hrun, hreceived⟩ :=
      exists_watchRun_tale polling id clock seen (more + 1)
    rw [← hreceived] at htold
    exact hrun.exists_of_prefix List.nil_prefix htold

/-! ### An observer who leaves -/

/-- An observer with room for so many events receives the beginning of what a watch tells an
observer that stays. -/
theorem isPrefix_take_watchFrom (polling : Polling) (id : String) (clock : Nat → Span)
    (seen : Nat → Except Failure α) (more number room : Nat) (last : Option JobState) :
    (polling.watchFrom id clock (glance seen) more number last (some room) number).1.take room <+:
      (polling.watchFrom id clock (glance seen) more number last none number).1 := by
  induction more generalizing number room last with
  | zero => exact List.take_prefix _ _
  | succ more ih =>
    cases hverdict : polling.verdict? id (clock number) (seen number) with
    | some result =>
      have hend : (polling.verdict? id (clock number) (seen number)).isSome := by rw [hverdict]; rfl
      rw [watchFrom_glance_of_end (.inl hend), watchFrom_glance_of_end (.inl hend)]
      exact List.take_prefix _ _
    | none =>
      have hroomy : polling.roomBehind id clock seen number last none ≠ some 0 := by
        simp [roomBehind]
      rw [watchFrom_glance_of_none hverdict hroomy]
      by_cases hroom : polling.roomBehind id clock seen number last (some room) = some 0
      · rw [watchFrom_glance_of_end (.inr hroom)]
        exact (List.take_prefix _ _).trans (List.prefix_append _ _)
      · rw [watchFrom_glance_of_none hverdict hroom]
        have hless : (polling.events id (clock number) last (seen number)).length ≤ room := by
          simp only [roomBehind, Option.map_some, Option.some.injEq] at hroom
          omega
        simp only [List.take_append, List.take_of_length_le hless]
        exact (List.prefix_append_right_inj _).mpr (ih _ _ _)

end Polling

/-- What an observer receives on a network is the beginning of what a watch tells that sees the
answers there (`answers`). -/
theorem Client.exists_watched (α : Type) [JobSnapshot α] (client : Client) (clock : Nat → Span)
    (id : String) (room : Option Nat) (traffic : Traffic) :
    ∃ watched, (client.watchJob α clock id room traffic).1 = .ok watched ∧
      watched.events <+: (client.polling.watchFrom id clock
        (Polling.glance (answers (client.getJob α id) traffic)) traffic.replies.length 0 none none
        0).1 := by
  have hget : (MonadState.get : Session Traffic) traffic = (.ok traffic, traffic) := rfl
  have hwatch : client.polling.watchFrom id clock (client.look α id) traffic.replies.length 0 none
      room traffic = _ :=
    watchFrom_attempt client.polling id clock (client.getJob α id) traffic _ 0 none room
  unfold Client.watchJob
  rw [Http.Exchange.bind_of_ok hget, Http.Exchange.bind_of_ok hwatch]
  cases room with
  | none => exact ⟨_, rfl, List.prefix_rfl⟩
  | some room =>
    exact ⟨_, rfl, Polling.isPrefix_take_watchFrom client.polling id clock
      (answers (client.getJob α id) traffic) traffic.replies.length 0 room none⟩

/-- What an observer receives on a network can be received from the task of a watch that sees the
answers there, so the task does what the watch is said to do. -/
theorem exists_watchRun_of_watchJob (α : Type) [JobSnapshot α] (client : Client)
    (clock : Nat → Span) (id : String) (room : Option Nat) (traffic : Traffic) :
    ∃ watched acts s, (client.watchJob α clock id room traffic).1 = .ok watched ∧
      client.polling.WatchRun id clock (answers (client.getJob α id) traffic) {} acts s ∧
      s.received = watched.events := by
  obtain ⟨watched, hwatched, hbegins⟩ := client.exists_watched α clock id room traffic
  obtain ⟨acts, s, hrun, hreceived⟩ := Polling.exists_watchRun_iff.mpr ⟨_, hbegins⟩
  exact ⟨watched, acts, s, hwatched, hrun, hreceived⟩

end BulkJobs
