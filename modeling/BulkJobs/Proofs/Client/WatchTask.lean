import BulkJobs.Proofs.Client.Deadline

/-!
# The task of a watch and its receiver

A watch is a task of its own. It tells what it sees through a channel with room for so many events,
and whoever listens may take an event, close the channel or drop it while the task waits: for the
answer to a look, for room in the channel, or for the end of a pause. `Polling.WatchStep` says what
the task and the receiver can do, one act at a time; `Polling.WatchRun` is any sequence of acts.

A task that nobody listens to looks no more and puts nothing into the channel, and it has at most
three acts left (`WatchRun.parted`). `Polling.tale` is what a watch tells that nothing interrupts
(`watchFrom_glance_eq`), and `Polling.untold` is the part of it that has not entered the channel.
As long as somebody listens, what was received, what is in the channel and what is untold are the
whole tale (`WatchStep.isWhole`); at all times what was received and what is in the channel is the
beginning of it (`WatchStep.isPrefix`). A task that has ended before a receiver that listens is at
the look that decides (`WatchStep.isPlaced`). `watch_loses_nothing` is the whole account.
-/

set_option autoImplicit false
set_option relaxedAutoImplicit false

namespace BulkJobs

open JobSnapshot (state)

/-! ### Acts -/

/-- Where the task of a watch is in its loop, with what it has at hand there. -/
inductive WatchPosition (α : Type) where
  | ready
  | looking
  /-- A change of state is to enter the channel. -/
  | reporting (job : α)
  /-- The event that closes the watch is to enter the channel. -/
  | closing (result : Except Failure α)
  | pausing
  | ended

namespace WatchPosition

/-- The acts that the task of a watch has left at most when nobody listens, by where it is in its
loop. -/
def actsLeft {α : Type} : WatchPosition α → Nat
  | .looking => 3
  | .pausing => 2
  | .ready | .reporting _ | .closing _ => 1
  | .ended => 0

theorem actsLeft_le {α : Type} (position : WatchPosition α) : position.actsLeft ≤ 3 := by
  cases position <;> simp [actsLeft]

end WatchPosition

/-- What becomes of the receiver of a watch, and with it of the channel. -/
inductive WatchReceiver where
  | listening
  /-- Closed, so that nothing enters the channel; what is in it can still be received. -/
  | closed
  | dropped
deriving DecidableEq, Repr

/-- The task of a watch, its channel, and what was received from it: a state of the three
together. -/
structure WatchState (α : Type) where
  number : Nat := 0
  last : Option JobState := none
  position : WatchPosition α := .ready
  channel : List (JobEvent α) := []
  receiver : WatchReceiver := .listening
  received : List (JobEvent α) := []

namespace WatchState

/-- The number of events that the channel of a watch has room for; with more than that waiting, the
task waits too. -/
def capacity : Nat := 16

/-- The number of looks that were begun, at most: that of the look that the task is at, and of those
before it. -/
def looks {α : Type} (s : WatchState α) : Nat :=
  match s.position with
  | .ready => s.number
  | _ => s.number + 1

theorem looks_le {α : Type} (s : WatchState α) : s.looks ≤ s.number + 1 := by
  unfold looks
  split
  · exact Nat.le_succ _
  · exact Nat.le_refl _

theorem looks_eq {α : Type} {s : WatchState α} (hposition : s.position ≠ .ready) :
    s.looks = s.number + 1 := by
  unfold looks
  split
  · exact absurd ‹_› hposition
  · rfl

end WatchState

/-- What the task of a watch or its receiver does in one step. The two act in any order. -/
inductive WatchAct where
  | look
  | answer
  | put
  | wake
  | leave
  | receive
  | close
  | drop
deriving DecidableEq, Repr

def WatchAct.isOfTask : WatchAct → Bool
  | receive | close | drop => false
  | _ => true

namespace Polling

variable {α : Type} [JobSnapshot α]

/-- Where the task is when the state that a look has shown is reported: in its pause, or at its end,
by what the look decides. -/
def positionAfter (polling : Polling) (id : String) (elapsed : Span) (job : α) :
    WatchPosition α :=
  match polling.verdict? id elapsed (.ok job) with
  | some result => .closing result
  | none => .pausing

theorem positionAfter_cases (polling : Polling) (id : String) (elapsed : Span) (job : α) :
    polling.positionAfter id elapsed job = .pausing ∨
      ∃ result, polling.positionAfter id elapsed job = .closing result := by
  unfold positionAfter
  cases polling.verdict? id elapsed (.ok job) with
  | none => exact .inl rfl
  | some result => exact .inr ⟨result, rfl⟩

/-- A task that has reported a state is neither before a look nor at its end: there is a pause or a
closing event between. -/
theorem positionAfter_ne (polling : Polling) (id : String) (elapsed : Span) (job : α) :
    polling.positionAfter id elapsed job ≠ .ready ∧
      polling.positionAfter id elapsed job ≠ .ended := by
  rcases positionAfter_cases polling id elapsed job with hpausing | ⟨result, hclosing⟩
  · simp [hpausing]
  · simp [hclosing]

/-- One act of the task of a watch, which sees the looks of a sequence (`seen`), or of its receiver.
Wherever the task waits, it may notice that nobody listens. -/
inductive WatchStep (polling : Polling) (id : String) (clock : Nat → Span)
    (seen : Nat → Except Failure α) : WatchState α → WatchAct → WatchState α → Prop where
  /-- Whether the receiver listens is asked right before a look. -/
  | look {s : WatchState α} : s.position = .ready → s.receiver = .listening →
      WatchStep polling id clock seen s .look { s with position := .looking }
  | failed {s : WatchState α} {failure : Failure} : s.position = .looking →
      seen s.number = .error failure →
      WatchStep polling id clock seen s .answer { s with position := .closing (.error failure) }
  | unchanged {s : WatchState α} {job : α} : s.position = .looking → seen s.number = .ok job →
      s.last = some (state job) →
      WatchStep polling id clock seen s .answer
        { s with position := polling.positionAfter id (clock s.number) job }
  | changed {s : WatchState α} {job : α} : s.position = .looking → seen s.number = .ok job →
      s.last ≠ some (state job) →
      WatchStep polling id clock seen s .answer { s with position := .reporting job }
  | report {s : WatchState α} {job : α} : s.position = .reporting job →
      s.receiver = .listening → s.channel.length < WatchState.capacity →
      WatchStep polling id clock seen s .put
        { s with
          last := some (state job)
          position := polling.positionAfter id (clock s.number) job
          channel := s.channel ++ [.stateChanged s.last job] }
  | finish {s : WatchState α} {result : Except Failure α} : s.position = .closing result →
      s.receiver = .listening → s.channel.length < WatchState.capacity →
      WatchStep polling id clock seen s .put
        { s with position := .ended, channel := s.channel ++ [.closing result] }
  /-- A pause may end before the task notices that nobody listens. -/
  | wake {s : WatchState α} : s.position = .pausing →
      WatchStep polling id clock seen s .wake
        { s with number := s.number + 1, position := .ready }
  /-- A look that is under way is not given up. -/
  | leave {s : WatchState α} : s.position ≠ .looking → s.position ≠ .ended →
      s.receiver ≠ .listening →
      WatchStep polling id clock seen s .leave { s with position := .ended }
  | receive {s : WatchState α} {event : JobEvent α} {rest : List (JobEvent α)} :
      s.receiver ≠ .dropped → s.channel = event :: rest →
      WatchStep polling id clock seen s .receive
        { s with channel := rest, received := s.received ++ [event] }
  | close {s : WatchState α} : s.receiver = .listening →
      WatchStep polling id clock seen s .close { s with receiver := .closed }
  | drop {s : WatchState α} : s.receiver ≠ .dropped →
      WatchStep polling id clock seen s .drop { s with channel := [], receiver := .dropped }

/-- A sequence of acts of the task of a watch and of its receiver, from one state to another. -/
inductive WatchRun (polling : Polling) (id : String) (clock : Nat → Span)
    (seen : Nat → Except Failure α) : WatchState α → List WatchAct → WatchState α → Prop where
  | nil (s : WatchState α) : WatchRun polling id clock seen s [] s
  | cons {s s' s'' : WatchState α} {act : WatchAct} {acts : List WatchAct} :
      WatchStep polling id clock seen s act s' → WatchRun polling id clock seen s' acts s'' →
      WatchRun polling id clock seen s (act :: acts) s''

variable {polling : Polling} {id : String} {clock : Nat → Span} {seen : Nat → Except Failure α}
  {s s' s'' : WatchState α} {act : WatchAct} {acts acts' : List WatchAct}

theorem WatchRun.append (h : polling.WatchRun id clock seen s acts s')
    (h' : polling.WatchRun id clock seen s' acts' s'') :
    polling.WatchRun id clock seen s (acts ++ acts') s'' := by
  induction h with
  | nil s => exact h'
  | cons hstep hrest ih => exact .cons hstep (ih h')

theorem WatchStep.length_channel_le (h : polling.WatchStep id clock seen s act s')
    (hs : s.channel.length ≤ WatchState.capacity) : s'.channel.length ≤ WatchState.capacity := by
  cases h with
  | report hposition hlistens hroom => exact List.length_append.trans_le hroom
  | finish hposition hlistens hroom => exact List.length_append.trans_le hroom
  | receive hreceiver hchannel =>
    rw [hchannel, List.length_cons] at hs
    exact Nat.le_of_succ_le hs
  | drop hreceiver => exact Nat.zero_le _
  | _ => exact hs

/-! ### When nobody listens -/

theorem actsLeft_positionAfter_le (polling : Polling) (id : String) (elapsed : Span) (job : α) :
    (polling.positionAfter id elapsed job).actsLeft ≤ 2 := by
  rcases positionAfter_cases polling id elapsed job with hpausing | ⟨result, hclosing⟩
  · simp [hpausing, WatchPosition.actsLeft]
  · simp [hclosing, WatchPosition.actsLeft]

/-- Who has stopped listening does not listen again, so who listens behind an act (`hlistens`) has
listened before it. -/
theorem WatchStep.listens (h : polling.WatchStep id clock seen s act s')
    (hlistens : s'.receiver = .listening) : s.receiver = .listening := by
  cases h with
  | close _ => cases hlistens
  | drop _ => cases hlistens
  | _ => exact hlistens

/-- What was told, received or still in the channel, does not grow by an act behind which nobody
listens (`hparted`). -/
theorem WatchStep.isPrefix_told (h : polling.WatchStep id clock seen s act s')
    (hparted : s'.receiver ≠ .listening) :
    s'.received ++ s'.channel <+: s.received ++ s.channel := by
  cases h with
  | report _ hlistens _ => exact absurd hlistens hparted
  | finish _ hlistens _ => exact absurd hlistens hparted
  | receive _ hchannel =>
    rw [hchannel, List.append_assoc]
    exact List.prefix_rfl
  | drop _ =>
    rw [List.append_nil]
    exact List.prefix_append _ _
  | _ => exact List.prefix_rfl

/-- When nobody listens (`hparted`), the task does not look and puts nothing into the channel. -/
theorem WatchStep.act_ne (h : polling.WatchStep id clock seen s act s')
    (hparted : s.receiver ≠ .listening) : act ≠ .look ∧ act ≠ .put := by
  cases h with
  | look _ hlistens => exact absurd hlistens hparted
  | report _ hlistens _ => exact absurd hlistens hparted
  | finish _ hlistens _ => exact absurd hlistens hparted
  | _ => exact ⟨by decide, by decide⟩

theorem WatchStep.actsLeft_lt (h : polling.WatchStep id clock seen s act s')
    (hparted : s.receiver ≠ .listening) (htask : act.isOfTask = true) :
    s'.position.actsLeft < s.position.actsLeft := by
  cases h with
  | look _ hlistens => exact absurd hlistens hparted
  | report _ hlistens _ => exact absurd hlistens hparted
  | finish _ hlistens _ => exact absurd hlistens hparted
  | failed hposition _ => simp [hposition, WatchPosition.actsLeft]
  | unchanged hposition _ _ =>
    rw [hposition]
    exact Nat.lt_succ_of_le (actsLeft_positionAfter_le polling id _ _)
  | changed hposition _ _ => simp [hposition, WatchPosition.actsLeft]
  | wake hposition => simp [hposition, WatchPosition.actsLeft]
  | leave hlooking hended _ =>
    cases hposition : s.position with
    | looking => exact absurd hposition hlooking
    | ended => exact absurd hposition hended
    | _ => simp [WatchPosition.actsLeft]
  | receive _ _ => cases htask
  | close _ => cases htask
  | drop _ => cases htask

theorem WatchStep.position_eq (h : polling.WatchStep id clock seen s act s')
    (htask : act.isOfTask = false) : s'.position = s.position := by
  cases h with
  | receive _ _ => rfl
  | close _ => rfl
  | drop _ => rfl
  | _ => cases htask

/-- When nobody listens any more (`hparted`), the task looks no more, nothing enters the channel,
and the task has only few acts left (`WatchPosition.actsLeft`), whatever the receiver does. -/
theorem WatchRun.parted (h : polling.WatchRun id clock seen s acts s')
    (hparted : s.receiver ≠ .listening) :
    .look ∉ acts ∧ .put ∉ acts ∧ s'.received ++ s'.channel <+: s.received ++ s.channel ∧
      s'.position.actsLeft + (acts.filter (·.isOfTask)).length ≤ s.position.actsLeft := by
  induction h with
  | nil s => exact ⟨List.not_mem_nil, List.not_mem_nil, List.prefix_rfl, Nat.le_refl _⟩
  | @cons s between s' act acts hstep hrest ih =>
    obtain ⟨hlook, hput⟩ := hstep.act_ne hparted
    have hnext : between.receiver ≠ .listening := mt hstep.listens hparted
    obtain ⟨hlooks, hputs, hlater, hlast⟩ := ih hnext
    refine ⟨List.not_mem_cons_of_ne_of_not_mem hlook.symm hlooks,
      List.not_mem_cons_of_ne_of_not_mem hput.symm hputs,
      hlater.trans (hstep.isPrefix_told hnext), ?_⟩
    rw [List.filter_cons]
    split_ifs with htask
    · have hless := hstep.actsLeft_lt hparted htask
      rw [List.length_cons]
      omega
    · rw [← hstep.position_eq (Bool.not_eq_true _ ▸ htask)]
      exact hlast

/-- A look that is under way (`hlooking`) is answered, whether anybody listens or not. -/
theorem exists_answer (polling : Polling) (id : String) (clock : Nat → Span)
    (seen : Nat → Except Failure α) (s : WatchState α) (hlooking : s.position = .looking) :
    ∃ s', polling.WatchStep id clock seen s .answer s' := by
  cases hseen : seen s.number with
  | error failure => exact ⟨_, .failed hlooking hseen⟩
  | ok job =>
    by_cases hlast : s.last = some (state job)
    · exact ⟨_, .unchanged hlooking hseen hlast⟩
    · exact ⟨_, .changed hlooking hseen hlast⟩

/-- When nobody listens any more (`hparted`), the task can come to its end, wherever it is. -/
theorem exists_watchRun_of_parted (polling : Polling) (id : String) (clock : Nat → Span)
    (seen : Nat → Except Failure α) (s : WatchState α) (hparted : s.receiver ≠ .listening) :
    ∃ acts s', polling.WatchRun id clock seen s acts s' ∧ s'.position = .ended := by
  have hleave : ∀ s : WatchState α, s.receiver ≠ .listening → s.position ≠ .looking →
      ∃ acts s', polling.WatchRun id clock seen s acts s' ∧ s'.position = .ended := by
    intro s hparted hlooking
    by_cases hended : s.position = .ended
    · exact ⟨[], s, .nil s, hended⟩
    · exact ⟨_, _, .cons (.leave hlooking hended hparted) (.nil _), rfl⟩
  by_cases hlooking : s.position = .looking
  · obtain ⟨s', hanswer⟩ := exists_answer polling id clock seen s hlooking
    have hnext : s'.position ≠ .looking := by
      intro hposition
      have hless := hanswer.actsLeft_lt hparted rfl
      rw [hposition, hlooking] at hless
      exact Nat.lt_irrefl _ hless
    obtain ⟨acts, last, hrun, hend⟩ := hleave s' (mt hanswer.listens hparted) hnext
    exact ⟨_, last, .cons hanswer hrun, hend⟩
  · exact hleave s hparted hlooking

/-! ### The tale of a watch -/

/-- What a watch that nothing interrupts tells of so many looks, from one of them on: each change of
state, and the closing event behind the look that decides. -/
def tale (polling : Polling) (id : String) (clock : Nat → Span) (seen : Nat → Except Failure α) :
    Nat → Nat → Option JobState → List (JobEvent α)
  | 0, _, _ => []
  | more + 1, number, last =>
    polling.events id (clock number) last (seen number) ++
      if (polling.verdict? id (clock number) (seen number)).isSome then []
      else tale polling id clock seen more (number + 1) (stateAfter last (seen number))

theorem watchFrom_glance_eq (more number : Nat) (last : Option JobState) :
    (polling.watchFrom id clock (glance seen) more number last none number).1 =
      polling.tale id clock seen (more + 1) number last := by
  induction more generalizing number last with
  | zero =>
    change polling.events id (clock number) last (seen number) = _
    simp [tale]
  | succ more ih =>
    rw [tale]
    cases hverdict : polling.verdict? id (clock number) (seen number) with
    | some result =>
      rw [watchFrom_glance_of_end (.inl (by rw [hverdict]; rfl)), Option.isSome_some, if_pos rfl,
        List.append_nil]
    | none =>
      have hroom : polling.roomBehind id clock seen number last none ≠ some 0 := by
        simp [roomBehind]
      rw [watchFrom_glance_of_none hverdict hroom, Option.isSome_none, if_neg (by decide), ← ih]
      rfl

/-- What a watch of `limit` looks tells behind the change of state that a look has shown: the
closing event, or the tale of the further looks. -/
def taleBehind (polling : Polling) (id : String) (clock : Nat → Span)
    (seen : Nat → Except Failure α) (limit number : Nat) (job : α) : List (JobEvent α) :=
  match polling.verdict? id (clock number) (.ok job) with
  | some result => [.closing result]
  | none => polling.tale id clock seen (limit - (number + 1)) (number + 1) (some (state job))

theorem tale_of_ok {limit number : Nat} (hlimit : number < limit) (last : Option JobState) {job : α}
    (hseen : seen number = .ok job) :
    polling.tale id clock seen (limit - number) number last =
      (if last = some (state job) then [] else [.stateChanged last job]) ++
        polling.taleBehind id clock seen limit number job := by
  obtain ⟨more, hmore⟩ : ∃ more, limit - number = more + 1 := ⟨limit - (number + 1), by omega⟩
  have hless : limit - (number + 1) = more := by omega
  rw [hmore, tale, hseen, events_eq, taleBehind, hless]
  cases polling.verdict? id (clock number) (.ok job) with
  | none => simp [changesFrom, Except.toOption, stateAfter]
  | some result => simp [changesFrom, Except.toOption]

theorem tale_of_error {limit number : Nat} (hlimit : number < limit) (last : Option JobState)
    {failure : Failure} (hseen : seen number = .error failure) :
    polling.tale id clock seen (limit - number) number last = [.failed failure] := by
  obtain ⟨more, hmore⟩ : ∃ more, limit - number = more + 1 := ⟨limit - (number + 1), by omega⟩
  rw [hmore, tale, hseen]
  rfl

/-- What has not entered the channel yet of the tale of a watch of `limit` looks, by where the task
is in its loop. -/
def untold (polling : Polling) (id : String) (clock : Nat → Span) (seen : Nat → Except Failure α)
    (limit : Nat) (s : WatchState α) : List (JobEvent α) :=
  match s.position with
  | .ready | .looking => polling.tale id clock seen (limit - s.number) s.number s.last
  | .reporting job =>
    .stateChanged s.last job :: polling.taleBehind id clock seen limit s.number job
  | .closing result => [.closing result]
  | .pausing => polling.tale id clock seen (limit - (s.number + 1)) (s.number + 1) s.last
  | .ended => []

theorem untold_positionAfter {limit : Nat} {job : α} (hlast : s.last = some (state job))
    (hposition : s.position = polling.positionAfter id (clock s.number) job) :
    polling.untold id clock seen limit s = polling.taleBehind id clock seen limit s.number job := by
  unfold untold taleBehind
  rw [hposition, positionAfter]
  cases polling.verdict? id (clock s.number) (.ok job) with
  | none => rw [hlast]
  | some result => rfl

theorem WatchStep.looks_le (h : polling.WatchStep id clock seen s act s') : s.looks ≤ s'.looks := by
  have hon : ∀ s' : WatchState α, s'.position ≠ .ready → s'.number = s.number →
      s.looks ≤ s'.looks := by
    intro s' hposition hnumber
    rw [WatchState.looks_eq hposition, hnumber]
    exact s.looks_le
  cases h with
  | unchanged _ _ _ => exact hon _ (positionAfter_ne _ _ _ _).1 rfl
  | report _ _ _ => exact hon _ (positionAfter_ne _ _ _ _).1 rfl
  | wake hposition =>
    rw [WatchState.looks_eq (by simp [hposition])]
    exact Nat.le_refl _
  | receive _ _ => exact Nat.le_refl _
  | close _ => exact Nat.le_refl _
  | drop _ => exact Nat.le_refl _
  | _ => exact hon _ (by simp) rfl

/-- Whether what was received, what is in the channel and what is untold are the whole tale, as long
as somebody listens. -/
def IsWhole (polling : Polling) (id : String) (clock : Nat → Span) (seen : Nat → Except Failure α)
    (s : WatchState α) : Prop :=
  s.receiver = .listening → ∀ limit, s.looks ≤ limit →
    s.received ++ s.channel ++ polling.untold id clock seen limit s =
      polling.tale id clock seen limit 0 none

theorem WatchStep.isWhole (h : polling.WatchStep id clock seen s act s')
    (hs : polling.IsWhole id clock seen s) : polling.IsWhole id clock seen s' := by
  intro hlistens limit hlimit
  have hlooks : s.looks ≤ limit := h.looks_le.trans hlimit
  have hbefore := hs (h.listens hlistens) limit hlooks
  have hless : s.position = .looking → s.number < limit := by
    intro hposition
    rw [WatchState.looks_eq (by simp [hposition])] at hlooks
    exact hlooks
  cases h with
  | look hposition _ => rw [← hbefore, untold, untold, hposition]
  | failed hposition hseen =>
    rw [← hbefore, untold, untold, hposition, tale_of_error (hless hposition) _ hseen]
    rfl
  | @unchanged job hposition hseen hlast =>
    have hbehind : polling.untold id clock seen limit
          { s with position := polling.positionAfter id (clock s.number) job } =
        polling.taleBehind id clock seen limit s.number job :=
      untold_positionAfter hlast rfl
    rw [← hbefore, hbehind, untold, hposition]
    simp only
    rw [tale_of_ok (hless hposition) _ hseen, if_pos hlast]
    rfl
  | changed hposition hseen hlast =>
    rw [← hbefore, untold, untold, hposition, tale_of_ok (hless hposition) _ hseen, if_neg hlast]
    rfl
  | @report job hposition _ _ =>
    have hbehind : polling.untold id clock seen limit
          { s with
            last := some (state job)
            position := polling.positionAfter id (clock s.number) job
            channel := s.channel ++ [.stateChanged s.last job] } =
        polling.taleBehind id clock seen limit s.number job :=
      untold_positionAfter rfl rfl
    rw [← hbefore, hbehind, untold, hposition]
    simp
  | finish hposition _ _ =>
    rw [← hbefore, untold, untold, hposition]
    simp
  | wake hposition => rw [← hbefore, untold, untold, hposition]
  | leave _ _ hparted => exact absurd hlistens hparted
  | receive _ hchannel =>
    rw [← hbefore, hchannel, untold, untold]
    simp
  | close _ => cases hlistens
  | drop _ => cases hlistens

/-- Whether what was received and what is in the channel is the beginning of the tale of some number
of looks. -/
def IsPrefix (polling : Polling) (id : String) (clock : Nat → Span) (seen : Nat → Except Failure α)
    (s : WatchState α) : Prop :=
  ∀ limit, s.looks ≤ limit → s.received ++ s.channel <+: polling.tale id clock seen limit 0 none

/-- As long as somebody listens, the whole tale begins with what was told (`hwhole`); afterwards
nothing is told any more, so the beginning it was (`hs`) it stays. -/
theorem WatchStep.isPrefix (h : polling.WatchStep id clock seen s act s')
    (hwhole : polling.IsWhole id clock seen s) (hs : polling.IsPrefix id clock seen s) :
    polling.IsPrefix id clock seen s' := by
  intro limit hlimit
  by_cases hlistens : s'.receiver = .listening
  · rw [← h.isWhole hwhole hlistens limit hlimit]
    exact List.prefix_append _ _
  · exact (h.isPrefix_told hlistens).trans (hs limit (h.looks_le.trans hlimit))

/-! ### The place in the loop -/

/-- What the place of the task in its loop says about the look that it is at: what that look has
shown, and what it decides. -/
def IsDue (polling : Polling) (id : String) (clock : Nat → Span) (seen : Nat → Except Failure α)
    (s : WatchState α) : Prop :=
  match s.position with
  | .reporting job => seen s.number = .ok job
  | .closing result => polling.verdict? id (clock s.number) (seen s.number) = some result
  | .pausing => polling.verdict? id (clock s.number) (seen s.number) = none
  | _ => True

/-- Whether the looks before the one that the task is at leave the job unfinished, and a task that
has ended before a receiver that listens is at a look that decides. -/
structure IsPlaced (polling : Polling) (id : String) (clock : Nat → Span)
    (seen : Nat → Except Failure α) (s : WatchState α) : Prop where
  before : polling.LeaveUnfinished id clock seen 0 s.number
  due : polling.IsDue id clock seen s
  decided : s.receiver = .listening → s.position = .ended →
    ∃ result, polling.verdict? id (clock s.number) (seen s.number) = some result

theorem isDue_positionAfter {job : α} (hseen : seen s.number = .ok job)
    (hposition : s.position = polling.positionAfter id (clock s.number) job) :
    polling.IsDue id clock seen s := by
  unfold IsDue
  rw [hposition, positionAfter, hseen]
  cases polling.verdict? id (clock s.number) (.ok job) <;> rfl

theorem WatchStep.isPlaced (h : polling.WatchStep id clock seen s act s')
    (hs : polling.IsPlaced id clock seen s) : polling.IsPlaced id clock seen s' := by
  have hdue := hs.due
  cases h with
  | look _ _ => exact ⟨hs.before, trivial, fun _ h ↦ by cases h⟩
  | failed _ hseen =>
    refine ⟨hs.before, ?_, fun _ h ↦ by cases h⟩
    change polling.verdict? id _ (seen s.number) = _
    rw [hseen]
    rfl
  | unchanged _ hseen _ =>
    exact ⟨hs.before, isDue_positionAfter hseen rfl,
      fun _ h ↦ absurd h (positionAfter_ne _ _ _ _).2⟩
  | changed _ hseen _ => exact ⟨hs.before, hseen, fun _ h ↦ by cases h⟩
  | report hposition _ _ =>
    rw [IsDue, hposition] at hdue
    exact ⟨hs.before, isDue_positionAfter hdue rfl,
      fun _ h ↦ absurd h (positionAfter_ne _ _ _ _).2⟩
  | finish hposition _ _ =>
    rw [IsDue, hposition] at hdue
    exact ⟨hs.before, trivial, fun _ _ ↦ ⟨_, hdue⟩⟩
  | wake hposition =>
    rw [IsDue, hposition] at hdue
    refine ⟨fun k hk ↦ ?_, trivial, fun _ h ↦ by cases h⟩
    rcases Nat.lt_succ_iff_lt_or_eq.mp hk with hless | rfl
    · exact hs.before k hless
    · rw [Nat.zero_add]
      exact hdue
  | leave _ _ hparted => exact ⟨hs.before, trivial, fun h _ ↦ absurd h hparted⟩
  | receive _ _ => exact ⟨hs.before, hs.due, hs.decided⟩
  | close _ => exact ⟨hs.before, hs.due, fun h _ ↦ by cases h⟩
  | drop _ => exact ⟨hs.before, hs.due, fun h _ ↦ by cases h⟩

/-! ### Every run -/

/-- What holds of the task, the channel and the receiver whatever happens: the invariant of all
acts. -/
structure IsFaithful (polling : Polling) (id : String) (clock : Nat → Span)
    (seen : Nat → Except Failure α) (s : WatchState α) : Prop where
  isWhole : polling.IsWhole id clock seen s
  isPrefix : polling.IsPrefix id clock seen s
  isPlaced : polling.IsPlaced id clock seen s
  length_channel_le : s.channel.length ≤ WatchState.capacity

theorem isFaithful_start (polling : Polling) (id : String) (clock : Nat → Span)
    (seen : Nat → Except Failure α) : polling.IsFaithful id clock seen {} where
  isWhole _ _ _ := rfl
  isPrefix _ _ := List.nil_prefix
  isPlaced := ⟨fun _ hk ↦ absurd hk (Nat.not_lt_zero _), trivial, fun _ h ↦ by cases h⟩
  length_channel_le := Nat.zero_le _

theorem WatchStep.isFaithful (h : polling.WatchStep id clock seen s act s')
    (hs : polling.IsFaithful id clock seen s) : polling.IsFaithful id clock seen s' where
  isWhole := h.isWhole hs.isWhole
  isPrefix := h.isPrefix hs.isWhole hs.isPrefix
  isPlaced := h.isPlaced hs.isPlaced
  length_channel_le := h.length_channel_le hs.length_channel_le

theorem WatchRun.isFaithful (h : polling.WatchRun id clock seen s acts s')
    (hs : polling.IsFaithful id clock seen s) : polling.IsFaithful id clock seen s' := by
  induction h with
  | nil s => exact hs
  | cons hstep hrest ih => exact ih (hstep.isFaithful hs)

end Polling

/-- Whatever the task of a watch and its receiver do, and in whatever order: what was received is
the beginning of what a watch tells that nothing interrupts, and when the task has ended before a
receiver that listens and the channel is empty, it is all of it. No more events wait than there is
room for. When the receiver is closed or dropped, the task looks no more, nothing enters the
channel, and the task has at most three acts left and can come to its end. -/
theorem watch_loses_nothing (α : Type) [JobSnapshot α] (polling : Polling) (id : String)
    (clock : Nat → Span) (seen : Nat → Except Failure α) {acts : List WatchAct}
    {s : WatchState α} (hrun : polling.WatchRun id clock seen {} acts s) :
    (∀ more, s.number ≤ more →
      s.received <+: (polling.watchFrom id clock (Polling.glance seen) more 0 none none 0).1) ∧
    (s.receiver = .listening → s.position = .ended → s.channel = [] →
      ∃ result, polling.EndsAt id clock seen s.number result ∧
        ∀ more, s.number ≤ more →
          (polling.watchFrom id clock (Polling.glance seen) more 0 none none 0).1 =
            s.received) ∧
    s.channel.length ≤ WatchState.capacity ∧
    (s.receiver ≠ .listening →
      (∀ later s', polling.WatchRun id clock seen s later s' →
        .look ∉ later ∧ .put ∉ later ∧ s'.received ++ s'.channel <+: s.received ++ s.channel ∧
          (later.filter (·.isOfTask)).length ≤ 3) ∧
      ∃ later s', polling.WatchRun id clock seen s later s' ∧ s'.position = .ended) := by
  obtain ⟨hwhole, hbegins, hplaced, hroom⟩ :=
    hrun.isFaithful (Polling.isFaithful_start polling id clock seen)
  have hlooks : ∀ more, s.number ≤ more → s.looks ≤ more + 1 :=
    fun _ hmore ↦ s.looks_le.trans (Nat.succ_le_succ hmore)
  refine ⟨fun more hmore ↦ ?_, fun hlistens hended hnothing ↦ ?_, hroom, fun hparted ↦ ⟨?_, ?_⟩⟩
  · rw [Polling.watchFrom_glance_eq]
    exact (List.prefix_append _ _).trans (hbegins (more + 1) (hlooks more hmore))
  · obtain ⟨result, hverdict⟩ := hplaced.decided hlistens hended
    refine ⟨result, Polling.decidedBy_iff.mp ⟨hplaced.before, hverdict⟩, fun more hmore ↦ ?_⟩
    rw [Polling.watchFrom_glance_eq, ← hwhole hlistens (more + 1) (hlooks more hmore), hnothing,
      Polling.untold, hended, List.append_nil, List.append_nil]
  · intro later s' hlater
    obtain ⟨hlook, hput, htold, hleft⟩ := hlater.parted hparted
    have hfew := s.position.actsLeft_le
    exact ⟨hlook, hput, htold, by omega⟩
  · exact Polling.exists_watchRun_of_parted polling id clock seen s hparted

/-- What the looks at a job show that is done at the second look, and in progress at the first. -/
def QueryJob.doneAtSecond (number : Nat) : Except Failure QueryJob :=
  .ok (QueryJob.shownIn (if number = 0 then .inProgress else .jobComplete))

/-- A receiver that takes the first event when all others wait already receives them all. -/
theorem watch_loses_nothing_of_slow : ∃ acts s,
    ({} : Polling).WatchRun "1" (fun _ ↦ .ofSeconds 0) QueryJob.doneAtSecond {} acts s ∧
    s.received = [.stateChanged none (QueryJob.shownIn .inProgress),
      .stateChanged (some .inProgress) (QueryJob.shownIn .jobComplete),
      .finished (QueryJob.shownIn .jobComplete)] ∧
    ∀ more, 1 ≤ more → (({} : Polling).watchFrom "1" (fun _ ↦ .ofSeconds 0)
      (Polling.glance QueryJob.doneAtSecond) more 0 none none 0).1 = s.received := by
  have hrun : ({} : Polling).WatchRun "1" (fun _ ↦ .ofSeconds 0) QueryJob.doneAtSecond {}
      [.look, .answer, .put, .wake, .look, .answer, .put, .put, .receive, .receive, .receive] _ :=
    .cons (.look rfl rfl) <| .cons (.changed rfl rfl (by decide)) <|
      .cons (.report rfl rfl (by decide)) <| .cons (.wake rfl) <| .cons (.look rfl rfl) <|
      .cons (.changed rfl rfl (by decide)) <| .cons (.report rfl rfl (by decide)) <|
      .cons (.finish rfl rfl (by decide)) <| .cons (.receive (by decide) rfl) <|
      .cons (.receive (by decide) rfl) <| .cons (.receive (by decide) rfl) (.nil _)
  obtain ⟨-, hall, -⟩ := watch_loses_nothing QueryJob {} "1" _ _ hrun
  obtain ⟨-, -, htold⟩ := hall rfl rfl rfl
  exact ⟨_, _, hrun, rfl, htold⟩

end BulkJobs
