import BulkJobs.Proofs.Client.Watching

/-!
# Waiting ends at the first look that decides, and in time

`Polling.GoesOn` says of a look that it leaves the job unfinished with time for another pause, and
`Polling.EndsWith` which result a look ends the waiting with: the snapshot of a job in a terminal
state, the failure of the look itself, or the failure that the time is up, and the last only for a
job that is still unfinished. `Polling.EndsAt` puts both together for a sequence of looks. It
describes waiting exactly (`waitFrom_glance_iff`).

On a clock that moves on by at least a pause between two looks (`Polling.Paces`), the number of
pauses is bounded by how often a pause goes into the time after which to give up
(`EndsAt.count_le`), whatever the looks show. A watch never looks more often than waiting does
(`watchFrom_glance_le`), on a network as well (`watchFrom_attempt`). `waiting_ends` is the whole
account.
-/

set_option autoImplicit false
set_option relaxedAutoImplicit false

namespace BulkJobs

open JobSnapshot (state)
open Http (Traffic)

variable {α : Type} [JobSnapshot α]

theorem JobState.isTerminal_iff {jobState : JobState} :
    jobState.isTerminal = true ↔ jobState ∈ [jobComplete, failed, aborted] := by
  cases jobState <;> decide

namespace Polling

variable {polling : Polling} {id : String} {clock : Nat → Span}

/-- Whether a look leaves a job unfinished, with time for another pause before the time after which
to give up. -/
def GoesOn (polling : Polling) (elapsed : Span) (seen : Except Failure α) : Prop :=
  ∃ job, seen = .ok job ∧ state job ∉ [JobState.jobComplete, .failed, .aborted] ∧
    ∀ timeout, polling.timeout = some timeout →
      elapsed.nanoseconds + polling.interval.nanoseconds ≤ timeout.nanoseconds

/-- The result with which a look ends the waiting for a job, at the time passed when it was made. -/
inductive EndsWith (polling : Polling) (id : String) (elapsed : Span) :
    Except Failure α → Except Failure α → Prop where
  | done {job : α} : state job ∈ [JobState.jobComplete, .failed, .aborted] →
      EndsWith polling id elapsed (.ok job) (.ok job)
  | failed (failure : Failure) : EndsWith polling id elapsed (.error failure) (.error failure)
  /-- The job is unfinished, and another pause would pass the time after which to give up. -/
  | late {job : α} {timeout : Span} : state job ∉ [JobState.jobComplete, .failed, .aborted] →
      polling.timeout = some timeout →
      timeout.nanoseconds < elapsed.nanoseconds + polling.interval.nanoseconds →
      EndsWith polling id elapsed (.ok job) (.error (.plain (.timeout id (state job) elapsed)))

/-- Whether waiting for a job ends at the look of a sequence with a given number, and how: all looks
before it leave the job unfinished. -/
structure EndsAt (polling : Polling) (id : String) (clock : Nat → Span)
    (seen : Nat → Except Failure α) (count : Nat) (result : Except Failure α) : Prop where
  before : ∀ number < count, polling.GoesOn (clock number) (seen number)
  last : polling.EndsWith id (clock count) (seen count) result

theorem isOverdue_iff {elapsed : Span} : polling.isOverdue elapsed = true ↔
    ∃ timeout, polling.timeout = some timeout ∧
      timeout.nanoseconds < elapsed.nanoseconds + polling.interval.nanoseconds := by
  unfold isOverdue
  cases polling.timeout with
  | none => simp
  | some timeout => simp only [decide_eq_true_eq, Option.some.injEq, exists_eq_left']; rfl

theorem not_isOverdue_iff {elapsed : Span} : ¬polling.isOverdue elapsed = true ↔
    ∀ timeout, polling.timeout = some timeout →
      elapsed.nanoseconds + polling.interval.nanoseconds ≤ timeout.nanoseconds := by
  rw [isOverdue_iff]
  simp only [not_exists, not_and, Nat.not_lt]

theorem verdict?_eq_none_iff {elapsed : Span} {seen : Except Failure α} :
    polling.verdict? id elapsed seen = none ↔ polling.GoesOn elapsed seen := by
  cases seen with
  | error failure => simp [verdict?, GoesOn]
  | ok job =>
    have hunfinished : polling.GoesOn elapsed (.ok job) ↔
        ¬(state job).isTerminal = true ∧ ¬polling.isOverdue elapsed = true := by
      rw [not_isOverdue_iff, JobState.isTerminal_iff]
      simp [GoesOn]
    rw [hunfinished, verdict?]
    split_ifs <;> simp [*]

theorem verdict?_eq_some_iff {elapsed : Span} {seen result : Except Failure α} :
    polling.verdict? id elapsed seen = some result ↔ polling.EndsWith id elapsed seen result := by
  constructor
  · intro hverdict
    cases seen with
    | error failure =>
      cases hverdict
      exact .failed failure
    | ok job =>
      rw [verdict?] at hverdict
      split_ifs at hverdict with hterminal hoverdue
      · cases hverdict
        exact .done (JobState.isTerminal_iff.mp hterminal)
      · cases hverdict
        obtain ⟨timeout, htimeout, hpast⟩ := isOverdue_iff.mp hoverdue
        exact .late (mt JobState.isTerminal_iff.mpr hterminal) htimeout hpast
  · rintro (hdone | failure | ⟨hopen, htimeout, hpast⟩)
    · exact if_pos (JobState.isTerminal_iff.mpr hdone)
    · rfl
    · rw [verdict?, if_neg (mt JobState.isTerminal_iff.mp hopen),
        if_pos (isOverdue_iff.mpr ⟨_, htimeout, hpast⟩)]

theorem leaveUnfinished_zero_iff {seen : Nat → Except Failure α} {count : Nat} :
    polling.LeaveUnfinished id clock seen 0 count ↔
      ∀ number < count, polling.GoesOn (clock number) (seen number) := by
  simp only [LeaveUnfinished, Nat.zero_add, verdict?_eq_none_iff]

theorem decidedBy_iff {seen : Nat → Except Failure α} {count : Nat} {result : Except Failure α} :
    polling.DecidedBy id clock seen count result ↔ polling.EndsAt id clock seen count result :=
  ⟨fun h ↦ ⟨leaveUnfinished_zero_iff.mp h.before, verdict?_eq_some_iff.mp h.verdict⟩,
    fun h ↦ ⟨leaveUnfinished_zero_iff.mpr h.before, verdict?_eq_some_iff.mpr h.last⟩⟩

theorem GoesOn.not_endsWith {elapsed : Span} {seen result : Except Failure α}
    (hgoes : polling.GoesOn elapsed seen) : ¬polling.EndsWith id elapsed seen result := by
  intro hends
  have hnone : polling.verdict? id elapsed seen = none := verdict?_eq_none_iff.mpr hgoes
  rw [verdict?_eq_some_iff.mpr hends] at hnone
  cases hnone

theorem EndsAt.unique {seen : Nat → Except Failure α} {count count' : Nat}
    {result result' : Except Failure α} (h : polling.EndsAt id clock seen count result)
    (h' : polling.EndsAt id clock seen count' result') : count = count' ∧ result = result' := by
  rcases Nat.lt_trichotomy count count' with hlt | rfl | hgt
  · exact absurd h.last (h'.before count hlt).not_endsWith
  · have hsame := (verdict?_eq_some_iff.mpr h.last).symm.trans (verdict?_eq_some_iff.mpr h'.last)
    exact ⟨rfl, Option.some.inj hsame⟩
  · exact absurd h'.last (h.before count' hgt).not_endsWith

/-- As long as enough looks are allowed (`hmore`), waiting for a job that is seen in a sequence of
looks goes to its end, and comes to the result with which it ends (`EndsAt`). -/
theorem waitFrom_glance_iff {seen : Nat → Except Failure α} {count more : Nat}
    {result : Except Failure α} (hmore : count < more) :
    polling.waitFrom id clock (glance seen) more 0 0 = (result, count + 1) ↔
      polling.EndsAt id clock seen count result := by
  rcases loops_glance polling id clock seen more with
    ⟨last, hlast, ending, hdecided, hwait, -⟩ | ⟨hunfinished, hwait, -⟩
  · have hends := decidedBy_iff.mp hdecided
    rw [hwait]
    constructor
    · intro heq
      obtain ⟨rfl, hcount⟩ := Prod.mk.inj heq
      rwa [← Nat.succ.inj hcount]
    · intro h
      obtain ⟨rfl, rfl⟩ := hends.unique h
      rfl
  · rw [hwait]
    refine iff_of_false (fun heq ↦ ?_) fun h ↦ ?_
    · exact Nat.ne_of_gt hmore (Nat.succ.inj (Prod.mk.inj heq).2)
    · exact (leaveUnfinished_zero_iff.mp hunfinished count hmore).not_endsWith h.last

/-! ### The number of looks -/

/-- Whether a clock moves on by at least a pause between two looks, as it does when the waiting
itself pauses. -/
def Paces (polling : Polling) (clock : Nat → Span) : Prop :=
  ∀ number, (clock number).nanoseconds + polling.interval.nanoseconds ≤
    (clock (number + 1)).nanoseconds

theorem Paces.le_clock (hpaces : polling.Paces clock) (number : Nat) :
    number * polling.interval.nanoseconds ≤ (clock number).nanoseconds := by
  induction number with
  | zero => omega
  | succ number ih =>
    have hstep := hpaces number
    rw [Nat.succ_mul]
    omega

/-- On a clock that paces (`hpaces`), no more looks leave a job unfinished (`hgoes`) than pauses go
into the time after which to give up. -/
theorem Paces.count_le (hpaces : polling.Paces clock) {timeout : Span}
    (htimeout : polling.timeout = some timeout) (hinterval : 0 < polling.interval.nanoseconds)
    {seen : Nat → Except Failure α} {count : Nat}
    (hgoes : ∀ number < count, polling.GoesOn (clock number) (seen number)) :
    count ≤ timeout.nanoseconds / polling.interval.nanoseconds := by
  cases count with
  | zero => exact Nat.zero_le _
  | succ count =>
    obtain ⟨job, -, -, hintime⟩ := hgoes count (Nat.lt_succ_self count)
    have hpauses := hpaces.le_clock count
    have hlast := hintime timeout htimeout
    rw [Nat.le_div_iff_mul_le hinterval, Nat.succ_mul]
    omega

/-- With a time after which to give up (`htimeout`), waiting ends on a clock that paces, whatever is
seen (`EndsAt`). -/
theorem Paces.exists_endsAt (hpaces : polling.Paces clock) {timeout : Span}
    (htimeout : polling.timeout = some timeout) (hinterval : 0 < polling.interval.nanoseconds)
    (id : String) (seen : Nat → Except Failure α) :
    ∃ count ≤ timeout.nanoseconds / polling.interval.nanoseconds, ∃ result,
      polling.EndsAt id clock seen count result := by
  rcases loops_glance polling id clock seen
      (timeout.nanoseconds / polling.interval.nanoseconds + 1) with
    ⟨count, hcount, result, hdecided, -⟩ | ⟨hunfinished, -⟩
  · exact ⟨count, Nat.le_of_lt_succ hcount, result, decidedBy_iff.mp hdecided⟩
  · have hle := hpaces.count_le htimeout hinterval (leaveUnfinished_zero_iff.mp hunfinished)
    exact absurd hle (Nat.not_succ_le_self _)

section Watch

variable {seen : Nat → Except Failure α} {number : Nat} {last : Option JobState}
  {room : Option Nat}

/-- What room an observer has left behind a look of a sequence, when the events of that look were
taken from it. -/
def roomBehind (polling : Polling) (id : String) (clock : Nat → Span)
    (seen : Nat → Except Failure α) (number : Nat) (last : Option JobState)
    (room : Option Nat) : Option Nat :=
  room.map (· - (polling.events id (clock number) last (seen number)).length)

theorem watchFrom_glance_succ (more : Nat) :
    polling.watchFrom id clock (glance seen) (more + 1) number last room number =
      (if (polling.verdict? id (clock number) (seen number)).isSome ||
          polling.roomBehind id clock seen number last room == some 0
        then return polling.events id (clock number) last (seen number)
        else do
          let later ← polling.watchFrom id clock (glance seen) more (number + 1)
            (stateAfter last (seen number)) (polling.roomBehind id clock seen number last room)
          return polling.events id (clock number) last (seen number) ++ later :
        StateM Nat (List (JobEvent α))) (number + 1) :=
  rfl

/-- A watch ends with a look that decides, and with the one that uses up the room (`hend`); its
events are the last ones. -/
theorem watchFrom_glance_of_end (hend : (polling.verdict? id (clock number) (seen number)).isSome ∨
      polling.roomBehind id clock seen number last room = some 0) (more : Nat) :
    polling.watchFrom id clock (glance seen) (more + 1) number last room number =
      (polling.events id (clock number) last (seen number), number + 1) := by
  have hstop : ((polling.verdict? id (clock number) (seen number)).isSome ||
      polling.roomBehind id clock seen number last room == some 0) = true := by
    simpa using hend
  rw [watchFrom_glance_succ, if_pos hstop]
  rfl

/-- A watch goes on behind a look that leaves the job unfinished (`hverdict`), as long as there is
room (`hroom`), with the state that was seen and the room that is left. -/
theorem watchFrom_glance_of_none
    (hverdict : polling.verdict? id (clock number) (seen number) = none)
    (hroom : polling.roomBehind id clock seen number last room ≠ some 0) (more : Nat) :
    polling.watchFrom id clock (glance seen) (more + 1) number last room number =
      (polling.events id (clock number) last (seen number) ++
          (polling.watchFrom id clock (glance seen) more (number + 1)
            (stateAfter last (seen number)) (polling.roomBehind id clock seen number last room)
            (number + 1)).1,
        (polling.watchFrom id clock (glance seen) more (number + 1) (stateAfter last (seen number))
          (polling.roomBehind id clock seen number last room) (number + 1)).2) := by
  have hgo : ¬((polling.verdict? id (clock number) (seen number)).isSome ||
      polling.roomBehind id clock seen number last room == some 0) = true := by
    simpa [hverdict] using hroom
  rw [watchFrom_glance_succ, if_neg hgo]
  rfl

/-- A watch looks at most as often as waiting does: it ends where waiting would, or before that
because its observer leaves. -/
theorem watchFrom_glance_le (more : Nat) :
    (polling.watchFrom id clock (glance seen) more number last room number).2 ≤
      (polling.lookFrom id clock (glance seen) more number number).2 := by
  induction more generalizing number last room with
  | zero => exact Nat.le_refl (number + 1)
  | succ more ih =>
    cases hverdict : polling.verdict? id (clock number) (seen number) with
    | some result =>
      rw [watchFrom_glance_of_end (.inl (by rw [hverdict]; rfl)), lookFrom_glance_of_some hverdict]
    | none =>
      obtain ⟨job, hjob⟩ := exists_job_of_verdict? hverdict
      rw [lookFrom_glance_of_ok hjob hverdict]
      by_cases hroom : polling.roomBehind id clock seen number last room = some 0
      · obtain ⟨count, unfinished, hlooks, -⟩ :=
          lookFrom_glance polling id clock seen more (number + 1)
        rw [watchFrom_glance_of_end (.inr hroom), hlooks]
        change number + 1 ≤ number + 1 + count + 1
        omega
      · rw [watchFrom_glance_of_none hverdict hroom]
        exact ih

end Watch

/-- What bounds the looks that leave a job unfinished (`hbound`) bounds all looks, as at most one of
them decides. -/
theorem lookFrom_glance_le {seen : Nat → Except Failure α} {bound : Nat}
    (hbound : ∀ count, (∀ number < count, polling.GoesOn (clock number) (seen number)) →
      count ≤ bound) (more : Nat) :
    (polling.lookFrom id clock (glance seen) more 0 0).2 ≤ bound + 1 := by
  obtain ⟨count, unfinished, hlooks, -, -, hunfinished, -⟩ :=
    lookFrom_glance polling id clock seen more 0
  rw [hlooks, Nat.zero_add]
  exact Nat.succ_le_succ (hbound count (leaveUnfinished_zero_iff.mp hunfinished))

theorem waitFrom_glance_looks {seen : Nat → Except Failure α} (more : Nat) :
    (polling.waitFrom id clock (glance seen) more 0 0).2 =
      (polling.lookFrom id clock (glance seen) more 0 0).2 := by
  rw [waitFrom_eq]
  exact congrArg Prod.snd (map_glance _ rfl)

/-- Where waiting ends at a look (`h`), no more looks than those before it leave the job
unfinished. -/
theorem EndsAt.le_count {seen : Nat → Except Failure α} {count : Nat}
    {result : Except Failure α} (h : polling.EndsAt id clock seen count result) (later : Nat)
    (hgoes : ∀ number < later, polling.GoesOn (clock number) (seen number)) : later ≤ count := by
  by_contra hlater
  exact (hgoes count (Nat.lt_of_not_le hlater)).not_endsWith h.last

end Polling

/-! ### On a network -/

/-- Watching by asking on a network is watching the sequence of the answers (`answers`), and it
leaves the network behind as many questions as there were looks. -/
theorem watchFrom_attempt (polling : Polling) (id : String) (clock : Nat → Span) (ask : Session α)
    (traffic : Traffic) (more number : Nat) (last : Option JobState) (room : Option Nat) :
    polling.watchFrom id clock (ask.attempt : Session (Except Failure α)) more number last room
        (afterAsking ask traffic number) =
      (polling.watchFrom id clock (Polling.glance (answers ask traffic)) more number last room
        number).map .ok (afterAsking ask traffic) := by
  have hlook : ∀ number,
      (ask.attempt : Session (Except Failure α)) (afterAsking ask traffic number) =
        (.ok (answers ask traffic number), afterAsking ask traffic (number + 1)) :=
    fun _ ↦ rfl
  induction more generalizing number last room with
  | zero =>
    rw [Polling.watchFrom, Http.Exchange.bind_of_ok (hlook number)]
    rfl
  | succ more ih =>
    rw [Polling.watchFrom, Http.Exchange.bind_of_ok (hlook number), Polling.watchFrom_glance_succ]
    simp only [← Polling.roomBehind.eq_1]
    split_ifs
    · rfl
    · exact Http.Exchange.bind_of_ok (ih _ _ _)

theorem Failure.kind_ofHttp_ne_timeout (failure : Http.Failure) (id : String)
    (jobState : JobState) (elapsed : Span) :
    (ofHttp failure).kind ≠ .timeout id jobState elapsed := by
  change kindOfHttp failure.kind ≠ _
  unfold kindOfHttp
  split
  · split_ifs <;> simp
  · split <;> simp

namespace Client

variable {client : Client} {clock : Nat → Span} {id : String} {traffic : Traffic}

/-- A look never fails because waiting took too long, so such a failure is the decision of the
waiting itself. -/
theorem kind_ne_timeout_of_getJob {failure : Failure}
    (hget : (getJob α client id traffic).1 = .error failure) (late : String)
    (jobState : JobState) (elapsed : Span) : failure.kind ≠ .timeout late jobState elapsed := by
  unfold getJob at hget
  rw [lift_apply] at hget
  cases hanswer : (client.org.getJson (JobSnapshot.decode (α := α))
      (client.jobUrl (JobSnapshot.kind α) id) traffic).1 with
  | ok job =>
    rw [hanswer] at hget
    cases hget
  | error problem =>
    rw [hanswer] at hget
    obtain rfl : Failure.ofHttp problem = failure := Except.error.inj hget
    exact Failure.kind_ofHttp_ne_timeout problem late jobState elapsed

theorem exists_waitForJob (α : Type) [JobSnapshot α] (client : Client) (clock : Nat → Span)
    (id : String) (traffic : Traffic) : ∃ count result,
      client.polling.EndsAt id clock (answers (getJob α client id) traffic) count result ∧
      waitForJob α client clock id traffic =
        (result, afterAsking (getJob α client id) traffic (count + 1)) := by
  obtain ⟨count, result, hdecided, hwait, -⟩ := loops_look (α := α) client clock id traffic
  have hget : (MonadState.get : Session Traffic) traffic = (.ok traffic, traffic) := rfl
  refine ⟨count, result, Polling.decidedBy_iff.mp hdecided, ?_⟩
  unfold waitForJob
  rw [Http.Exchange.bind_of_ok hget, Http.Exchange.bind_of_ok hwait]
  rfl

/-- On a network, a watch of a job looks at most as often as waiting for it does (`hends`), and asks
for nothing else. -/
theorem exists_watchJob {count : Nat} {result : Except Failure α}
    (hends : client.polling.EndsAt id clock (answers (getJob α client id) traffic) count result)
    (room : Option Nat) : ∃ looks ≤ count + 1, (watchJob α client clock id room traffic).2 =
      afterAsking (getJob α client id) traffic looks := by
  have hget : (MonadState.get : Session Traffic) traffic = (.ok traffic, traffic) := rfl
  have hwatch : client.polling.watchFrom id clock (look α client id) traffic.replies.length 0 none
      room traffic = _ :=
    watchFrom_attempt client.polling id clock (getJob α client id) traffic _ 0 none room
  have hlooks : (client.polling.watchFrom id clock
      (Polling.glance (answers (getJob α client id) traffic)) traffic.replies.length 0 none room
      0).2 ≤ count + 1 :=
    (Polling.watchFrom_glance_le _).trans (Polling.lookFrom_glance_le hends.le_count _)
  refine ⟨_, hlooks, ?_⟩
  unfold watchJob
  rw [Http.Exchange.bind_of_ok hget, Http.Exchange.bind_of_ok hwatch]
  cases room <;> rfl

end Client

/-- Waiting for a job ends at the first look that fails or shows the job in a terminal state, if no
look before it finds the time up. A job is given up only when a look has shown it unfinished and
another pause would pass the time to give up; so no pause passes it. On a clock that moves on by at
least a pause between two looks, waiting and watching look at most once more than pauses go into
that time, whatever they see. On a network waiting ends, asks for nothing behind its last look, and
gives a job up only by its own decision. -/
theorem waiting_ends (α : Type) [JobSnapshot α] (client : Client) (clock : Nat → Span)
    (id : String) :
    (∀ (seen : Nat → Except Failure α) (count more : Nat) (result : Except Failure α),
      count < more →
      (client.polling.waitFrom id clock (Polling.glance seen) more 0 0 = (result, count + 1) ↔
        client.polling.EndsAt id clock seen count result)) ∧
    (∀ timeout, client.polling.timeout = some timeout →
      0 < client.polling.interval.nanoseconds → client.polling.Paces clock →
      ∀ seen : Nat → Except Failure α,
        (∃ count result, client.polling.EndsAt id clock seen count result) ∧
        (∀ count result, client.polling.EndsAt id clock seen count result →
          count + 1 ≤ timeout.nanoseconds / client.polling.interval.nanoseconds + 1) ∧
        ∀ more room,
          (client.polling.waitFrom id clock (Polling.glance seen) more 0 0).2 ≤
            timeout.nanoseconds / client.polling.interval.nanoseconds + 1 ∧
          (client.polling.watchFrom id clock (Polling.glance seen) more 0 none room 0).2 ≤
            timeout.nanoseconds / client.polling.interval.nanoseconds + 1) ∧
    ∀ traffic : Traffic, ∃ count result,
      client.polling.EndsAt id clock (answers (client.getJob α id) traffic) count result ∧
      client.waitForJob α clock id traffic =
        (result, afterAsking (client.getJob α id) traffic (count + 1)) ∧
      (∀ room, ∃ looks ≤ count + 1, (client.watchJob α clock id room traffic).2 =
        afterAsking (client.getJob α id) traffic looks) ∧
      ∀ number failure, answers (client.getJob α id) traffic number = .error failure →
        ∀ late jobState elapsed, failure.kind ≠ .timeout late jobState elapsed := by
  refine ⟨fun seen count more result ↦ Polling.waitFrom_glance_iff, ?_, fun traffic ↦ ?_⟩
  · intro timeout htimeout hinterval hpaces seen
    have hbound : ∀ count,
        (∀ number < count, client.polling.GoesOn (clock number) (seen number)) →
          count ≤ timeout.nanoseconds / client.polling.interval.nanoseconds :=
      fun count ↦ hpaces.count_le htimeout hinterval
    obtain ⟨count, -, hends⟩ := hpaces.exists_endsAt htimeout hinterval id seen
    refine ⟨⟨count, hends⟩, fun count result h ↦ Nat.succ_le_succ (hbound count h.before), ?_⟩
    intro more room
    have hlooks : (client.polling.lookFrom id clock (Polling.glance seen) more 0 0).2 ≤
        timeout.nanoseconds / client.polling.interval.nanoseconds + 1 :=
      Polling.lookFrom_glance_le hbound more
    rw [Polling.waitFrom_glance_looks]
    exact ⟨hlooks, (Polling.watchFrom_glance_le more).trans hlooks⟩
  · obtain ⟨count, result, hends, hwait⟩ := Client.exists_waitForJob α client clock id traffic
    exact ⟨count, result, hends, hwait, Client.exists_watchJob hends,
      fun _ _ ↦ Client.kind_ne_timeout_of_getJob⟩

def QueryJob.shownIn (jobState : JobState) : QueryJob :=
  { id := "1", state := jobState, operation := .query, query := none, object := none
    columnDelimiter := none, lineEnding := none, recordsProcessed := 0, createdDate := none
    systemModstamp := none, apiVersion := none, errorMessage := none }

/-- A pause of two seconds goes twice into five seconds, so the third look at a job that stays in
progress gives it up, and no watch looks a fourth time. -/
theorem waiting_ends_in_five_seconds :
    ({ interval := .ofSeconds 2, timeout := some (.ofSeconds 5) } : Polling).Paces
        (fun number ↦ .ofSeconds (2 * number)) ∧
      ({ interval := .ofSeconds 2, timeout := some (.ofSeconds 5) } : Polling).waitFrom "1"
          (fun number ↦ .ofSeconds (2 * number))
          (Polling.glance fun _ ↦ .ok (QueryJob.shownIn .inProgress)) 9 0 0 =
        (.error (.plain (.timeout "1" .inProgress (.ofSeconds 4))), 3) ∧
      (({ interval := .ofSeconds 2, timeout := some (.ofSeconds 5) } : Polling).watchFrom "1"
          (fun number ↦ .ofSeconds (2 * number))
          (Polling.glance fun _ ↦ .ok (QueryJob.shownIn .inProgress)) 9 0 none none 0).2 ≤ 3 := by
  let client : Client :=
    { org := { instanceUrl := "http://[::1]", accessToken := "t", apiVersion := "62.0", http := {} }
      polling := { interval := .ofSeconds 2, timeout := some (.ofSeconds 5) } }
  have hpaces : client.polling.Paces fun number ↦ .ofSeconds (2 * number) := by
    intro number
    change 2 * number * 1000000000 + 2 * 1000000000 ≤ 2 * (number + 1) * 1000000000
    omega
  obtain ⟨hwait, hbound, -⟩ :=
    waiting_ends QueryJob client (fun number ↦ .ofSeconds (2 * number)) "1"
  have hends : client.polling.EndsAt "1" (fun number ↦ .ofSeconds (2 * number))
      (fun _ ↦ .ok (QueryJob.shownIn .inProgress)) 2
      (.error (.plain (.timeout "1" .inProgress (.ofSeconds 4)))) := by
    refine ⟨fun number hnumber ↦ ⟨_, rfl, by decide, fun timeout htimeout ↦ ?_⟩,
      .late (by decide) rfl (by decide)⟩
    cases htimeout
    change 2 * number * 1000000000 + 2 * 1000000000 ≤ 5 * 1000000000
    omega
  obtain ⟨-, -, hlooks⟩ :=
    hbound _ rfl (by decide) hpaces fun _ ↦ .ok (QueryJob.shownIn .inProgress)
  exact ⟨hpaces, (hwait _ 2 9 _ (by decide)).mpr hends, (hlooks 9 none).2.trans (by decide)⟩

end BulkJobs
