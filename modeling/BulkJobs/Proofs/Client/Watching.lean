import BulkJobs.Client.Watch
import BulkJobs.Proofs.Client.IngestAct
import Mathlib.Data.List.SplitBy

/-!
# Watching a job is waiting for it aloud

Waiting for a job and watching it look at the job in the same way: both are what `lookFrom` sees,
told in different words (`waitFrom_eq`, `watchFrom_eq`), over any monad in which one can look. What
the watcher tells of the snapshots is one change of state for each run of equal states, with the
first snapshot of the run and the state of the run before (`changes`, `changesFrom_none`); when a
look decides, the one event behind them is how waiting ends (`JobEvent.closing`).

On a sequence of looks both loops go to the first look that decides, or on to the last that is
allowed (`loops_glance`). Looks on a network are the sequence of the answers to one question
(`lookFrom_attempt`). There are only so many replies to come, and each look that leaves a job
unfinished takes one of them, so some look decides (`loops_look`). `watching_tells_waiting` puts
both together.
-/

set_option autoImplicit false
set_option relaxedAutoImplicit false

namespace BulkJobs

open JobSnapshot (state)
open Http (Traffic)

variable {α : Type} [JobSnapshot α]

/-- The event that closes a watch when waiting for the job ends in a certain way: with the job, or
with a failure. -/
def JobEvent.closing {α : Type} : Except Failure α → JobEvent α
  | .ok job => .finished job
  | .error failure => .failed failure

/-! ### Changes of state -/

/-- The maximal runs of snapshots one after another that show the same state. No run is empty, and
two runs side by side show different states. -/
def runsOfState (jobs : List α) : List (List α) :=
  jobs.splitBy fun first second ↦ state first == state second

/-- The changes of state that snapshots show: the first snapshot of each run of equal states, with
the state of the run before. -/
def changes (jobs : List α) : List (JobEvent α) :=
  let firsts := (runsOfState jobs).filterMap List.head?
  List.zipWith .stateChanged (none :: firsts.map fun job ↦ some (state job)) firsts

/-- The changes of state that snapshots show one by one, after a state that was seen last, if one
was. -/
def changesFrom : Option JobState → List α → List (JobEvent α)
  | _, [] => []
  | last, job :: jobs =>
    (if last = some (state job) then [] else [.stateChanged last job]) ++
      changesFrom (some (state job)) jobs

/-- Snapshots that all show the state seen last (`hrun`) show no change before what comes behind
them. -/
theorem changesFrom_append_of_same {last : JobState} {run : List α}
    (hrun : ∀ job ∈ run, state job = last) (rest : List α) :
    changesFrom (some last) (run ++ rest) = changesFrom (some last) rest := by
  induction run with
  | nil => rfl
  | cons job run ih =>
    have hjob : state job = last := hrun job (.head _)
    rw [List.cons_append, changesFrom, hjob, if_pos rfl, List.nil_append,
      ih fun job h ↦ hrun job (.tail _ h)]

theorem state_eq_of_isChain {job : α} {run : List α}
    (hrun : (job :: run).IsChain fun first second ↦ (state first == state second) = true) :
    ∀ other ∈ run, state other = state job := by
  induction run generalizing job with
  | nil => simp
  | cons next run ih =>
    obtain ⟨hnext, hrest⟩ := List.isChain_cons_cons.mp hrun
    have hstate : state next = state job := (beq_iff_eq.mp hnext).symm
    intro other hother
    rcases List.mem_cons.mp hother with rfl | hother
    · exact hstate
    · exact (ih hrest other hother).trans hstate

/-- What is told snapshot by snapshot is one change for each run. The induction is on the runs; the
state seen last is that of the run before. -/
theorem changesFrom_flatten {runs : List (List α)} (hsome : [] ∉ runs)
    (hsame : ∀ run ∈ runs, run.IsChain fun first second ↦ (state first == state second) = true)
    (hmaximal : runs.IsChain fun first second ↦
      ∃ hfirst hsecond, (state (first.getLast hfirst) == state (second.head hsecond)) = false)
    (last : Option JobState)
    (hlast : ∀ run ∈ runs.head?, ∀ job ∈ run.head?, last ≠ some (state job)) :
    changesFrom last runs.flatten =
      List.zipWith .stateChanged
        (last :: (runs.filterMap List.head?).map fun job ↦ some (state job))
        (runs.filterMap List.head?) := by
  induction runs generalizing last with
  | nil => rfl
  | cons run runs ih =>
    cases run with
    | nil => exact absurd (List.mem_cons_self) hsome
    | cons job run =>
      have hrun := state_eq_of_isChain (hsame _ (.head _))
      have hnext : ∀ other ∈ runs.head?, ∀ next ∈ other.head?,
          some (state job) ≠ some (state next) := by
        intro other hother next hhead hstate
        obtain ⟨hfirst, hsecond, hdiffers⟩ := (List.isChain_cons.mp hmaximal).1 other hother
        have hend : state ((job :: run).getLast hfirst) = state job := by
          rcases List.mem_cons.mp (List.getLast_mem hfirst) with heq | hmem
          · rw [heq]
          · exact hrun _ hmem
        rw [hend, List.head_of_mem_head? hhead] at hdiffers
        exact (beq_eq_false_iff_ne.mp hdiffers) (Option.some.inj hstate)
      have hchanged : last ≠ some (state job) := hlast _ rfl job rfl
      rw [List.flatten_cons, List.cons_append, changesFrom, if_neg hchanged,
        changesFrom_append_of_same hrun,
        ih (fun h ↦ hsome (.tail _ h)) (fun other h ↦ hsame other (.tail _ h))
          (List.isChain_cons.mp hmaximal).2 _ hnext]
      rfl

theorem changesFrom_none (jobs : List α) : changesFrom none jobs = changes jobs := by
  obtain ⟨hflatten, hsome, hsame, hmaximal⟩ := List.splitBy_eq_iff.mp (rfl : runsOfState jobs = _)
  have hchanges := changesFrom_flatten hsome hsame hmaximal none (by simp)
  rw [← hflatten] at hchanges
  exact hchanges

/-! ### What the loops look at -/

/-- What looking at a job again and again has shown: the snapshots that left the job unfinished, and
the last look. -/
structure Looked (α : Type) where
  unfinished : List α
  last : Except Failure α

namespace Looked

def jobs {α : Type} (looked : Looked α) : List α :=
  looked.unfinished ++ looked.last.toOption.toList

def behind {α : Type} (job : α) (looked : Looked α) : Looked α :=
  { looked with unfinished := job :: looked.unfinished }

end Looked

namespace Polling

variable {m : Type → Type} [Monad m] {polling : Polling} {id : String} {clock : Nat → Span}
  {look : m (Except Failure α)}

/-- Look at a job from the look with the given number on until a look decides. After `more` looks
that leave the job unfinished one more look is the last, whatever it shows. -/
def lookFrom (polling : Polling) (id : String) (clock : Nat → Span) (look : m (Except Failure α)) :
    Nat → Nat → m (Looked α)
  | 0, _ => return { unfinished := [], last := ← look }
  | more + 1, number => do
    let seen ← look
    match seen, polling.verdict? id (clock number) seen with
    | .ok job, none => return (← lookFrom polling id clock look more (number + 1)).behind job
    | _, _ => return { unfinished := [], last := seen }

/-- How the last look ends the waiting, if it does, when the first look has the given number: it is
judged at the time that the clock gives for its own number. -/
def verdictAt? (polling : Polling) (id : String) (clock : Nat → Span) (number : Nat)
    (looked : Looked α) : Option (Except Failure α) :=
  polling.verdict? id (clock (number + looked.unfinished.length)) looked.last

theorem verdictAt?_behind (number : Nat) (job : α) (looked : Looked α) :
    polling.verdictAt? id clock number (looked.behind job) =
      polling.verdictAt? id clock (number + 1) looked := by
  unfold verdictAt? Looked.behind
  rw [List.length_cons, Nat.add_right_comm, Nat.add_assoc]

/-- A look that leaves a job unfinished (`hverdict`) shows it, as one that fails would decide. -/
theorem exists_job_of_verdict? {elapsed : Span} {seen : Except Failure α}
    (hverdict : polling.verdict? id elapsed seen = none) : ∃ job, seen = .ok job := by
  cases seen with
  | error failure => cases hverdict
  | ok job => exact ⟨job, rfl⟩

theorem events_eq (elapsed : Span) (last : Option JobState) (seen : Except Failure α) :
    polling.events id elapsed last seen = changesFrom last seen.toOption.toList ++
      (polling.verdict? id elapsed seen).toList.map .closing := by
  cases seen with
  | error failure => rfl
  | ok job =>
    have hchange : changesFrom last (Except.ok (ε := Failure) job).toOption.toList =
        if last = some (state job) then [] else [.stateChanged last job] := by
      simp [changesFrom, Except.toOption]
    rw [hchange, events]
    cases polling.verdict? id elapsed (.ok job) with
    | none => simp
    | some result => cases result <;> simp [JobEvent.closing]

section Loops

variable [LawfulMonad m]

/-- Waiting is looking (`lookFrom`), and then how the last look ends it. What the loop of waiting
does besides is nothing but looks. -/
theorem waitFrom_eq (more number : Nat) : polling.waitFrom id clock look more number =
    (fun looked ↦ if looked.unfinished.length < more then
        (polling.verdictAt? id clock number looked).getD looked.last else looked.last) <$>
      polling.lookFrom id clock look more number := by
  induction more generalizing number with
  | zero => simp [waitFrom, lookFrom]
  | succ more ih =>
    rw [waitFrom, lookFrom, map_bind]
    refine bind_congr fun seen ↦ ?_
    cases hverdict : polling.verdict? id (clock number) seen with
    | some result =>
      have hlast : polling.verdictAt? id clock number ⟨[], seen⟩ = some result := hverdict
      cases seen <;> simp [hlast]
    | none =>
      obtain ⟨job, rfl⟩ := exists_job_of_verdict? hverdict
      simp only [ih, map_bind, map_pure, verdictAt?_behind]
      simp [Looked.behind]

/-- Watching is looking (`lookFrom`), and then the changes of state that were seen and the event
that says how it ends. So watching looks just as waiting does. -/
theorem watchFrom_eq (more number : Nat) (last : Option JobState) :
    polling.watchFrom id clock look more number last none =
      (fun looked ↦ changesFrom last looked.jobs ++
        (polling.verdictAt? id clock number looked).toList.map .closing) <$>
      polling.lookFrom id clock look more number := by
  induction more generalizing number last with
  | zero => simp [watchFrom, lookFrom, events_eq, Looked.jobs, verdictAt?]
  | succ more ih =>
    rw [watchFrom, lookFrom, map_bind]
    refine bind_congr fun seen ↦ ?_
    cases hverdict : polling.verdict? id (clock number) seen with
    | some result =>
      have hlast : polling.verdictAt? id clock number ⟨[], seen⟩ = some result := hverdict
      cases seen <;> simp [hlast, events_eq, hverdict, Looked.jobs]
    | none =>
      obtain ⟨job, rfl⟩ := exists_job_of_verdict? hverdict
      have hjobs : ∀ later : Looked α, changesFrom last (later.behind job).jobs =
          changesFrom last [job] ++ changesFrom (some (state job)) later.jobs := by
        intro later
        simp [Looked.jobs, Looked.behind, changesFrom]
      simp [ih, events_eq, hverdict, stateAfter, verdictAt?_behind, hjobs, Except.toOption]

end Loops

/-! ### Looks in a sequence -/

/-- The next look of a sequence, as a computation that counts the looks. -/
def glance {α : Type} (seen : Nat → Except Failure α) : StateM Nat (Except Failure α) :=
  fun number ↦ (seen number, number + 1)

/-- The snapshots that a number of looks of a sequence show, from one of them on. -/
def shown {α : Type} (seen : Nat → Except Failure α) (number count : Nat) : List α :=
  (List.range' number count).filterMap fun k ↦ (seen k).toOption

/-- Whether so many looks of a sequence leave the job unfinished, from one of them on. -/
def LeaveUnfinished (polling : Polling) (id : String) (clock : Nat → Span)
    (seen : Nat → Except Failure α) (number count : Nat) : Prop :=
  ∀ k < count, polling.verdict? id (clock (number + k)) (seen (number + k)) = none

theorem LeaveUnfinished.cons {seen : Nat → Except Failure α} {number count : Nat}
    (hfirst : polling.verdict? id (clock number) (seen number) = none)
    (hrest : polling.LeaveUnfinished id clock seen (number + 1) count) :
    polling.LeaveUnfinished id clock seen number (count + 1) := by
  intro k hk
  cases k with
  | zero => exact hfirst
  | succ k =>
    have hlater := hrest k (Nat.lt_of_succ_lt_succ hk)
    rwa [Nat.add_right_comm, Nat.add_assoc] at hlater

theorem lookFrom_glance_of_ok {seen : Nat → Except Failure α} {number : Nat} {job : α}
    (hseen : seen number = .ok job)
    (hnone : polling.verdict? id (clock number) (seen number) = none) (more : Nat) :
    polling.lookFrom id clock (glance seen) (more + 1) number number =
      ((polling.lookFrom id clock (glance seen) more (number + 1) (number + 1)).1.behind job,
        (polling.lookFrom id clock (glance seen) more (number + 1) (number + 1)).2) := by
  change (match seen number, polling.verdict? id (clock number) (seen number) with
      | .ok job, none => do
        return (← polling.lookFrom id clock (glance seen) more (number + 1)).behind job
      | _, _ => return { unfinished := [], last := seen number } :
        StateM Nat (Looked α)) (number + 1) = _
  rw [hnone, hseen]
  rfl

theorem lookFrom_glance_of_some {seen : Nat → Except Failure α} {number : Nat}
    {result : Except Failure α}
    (hverdict : polling.verdict? id (clock number) (seen number) = some result) (more : Nat) :
    polling.lookFrom id clock (glance seen) (more + 1) number number =
      (⟨[], seen number⟩, number + 1) := by
  change (match seen number, polling.verdict? id (clock number) (seen number) with
      | .ok job, none => do
        return (← polling.lookFrom id clock (glance seen) more (number + 1)).behind job
      | _, _ => return { unfinished := [], last := seen number } :
        StateM Nat (Looked α)) (number + 1) = _
  rw [hverdict]
  cases seen number <;> rfl

/-- The looks of a sequence go to the first one that decides, or to the last that is allowed, and
all before it leave the job unfinished (`LeaveUnfinished`). -/
theorem lookFrom_glance (polling : Polling) (id : String) (clock : Nat → Span)
    (seen : Nat → Except Failure α) (more number : Nat) :
    ∃ count unfinished,
      polling.lookFrom id clock (glance seen) more number number =
        (⟨unfinished, seen (number + count)⟩, number + count + 1) ∧
      unfinished.length = count ∧
      Looked.jobs ⟨unfinished, seen (number + count)⟩ = shown seen number (count + 1) ∧
      polling.LeaveUnfinished id clock seen number count ∧
      (count < more ∧ polling.verdict? id (clock (number + count)) (seen (number + count)) ≠ none ∨
        count = more) := by
  have hsingle : ∀ number, Looked.jobs ⟨[], seen number⟩ = shown seen number 1 := by
    intro number
    cases hseen : seen number <;> simp [Looked.jobs, shown, hseen, Except.toOption]
  induction more generalizing number with
  | zero => exact ⟨0, [], rfl, rfl, hsingle number, by simp [LeaveUnfinished], .inr rfl⟩
  | succ more ih =>
    cases hverdict : polling.verdict? id (clock number) (seen number) with
    | some result =>
      exact ⟨0, [], lookFrom_glance_of_some hverdict more, rfl, hsingle number,
        by simp [LeaveUnfinished], .inl ⟨Nat.succ_pos more, by simp [hverdict]⟩⟩
    | none =>
      obtain ⟨job, hjob⟩ := exists_job_of_verdict? hverdict
      obtain ⟨count, unfinished, hrun, hlength, hjobs, hbefore, hlast⟩ := ih (number + 1)
      have hshift : number + (count + 1) = number + 1 + count := by omega
      refine ⟨count + 1, job :: unfinished, ?_, ?_, ?_, .cons hverdict hbefore, ?_⟩
      · rw [lookFrom_glance_of_ok hjob hverdict, hrun, hshift]
        rfl
      · rw [List.length_cons, hlength]
      · rw [hshift, shown, List.range'_succ, List.filterMap_cons, hjob]
        exact congrArg (job :: ·) hjobs
      · rw [hshift]
        exact hlast.imp (fun h ↦ ⟨Nat.succ_lt_succ h.1, h.2⟩) (congrArg (· + 1))

/-- Whether the look of a sequence with a given number is the first that decides, and how. -/
structure DecidedBy (polling : Polling) (id : String) (clock : Nat → Span)
    (seen : Nat → Except Failure α) (count : Nat) (result : Except Failure α) : Prop where
  before : polling.LeaveUnfinished id clock seen 0 count
  verdict : polling.verdict? id (clock count) (seen count) = some result

theorem map_glance {β γ : Type} {x : StateM Nat β} {number number' : Nat} {value : β} (f : β → γ)
    (hrun : x number = (value, number')) :
    (f <$> x : StateM Nat γ) number = (f value, number') := by
  change (f (x number).1, (x number).2) = _
  rw [hrun]

/-- On a sequence of looks, waiting and watching both go to the first look that decides, where they
end in the same way, or both go on to the last look that is allowed. -/
theorem loops_glance (polling : Polling) (id : String) (clock : Nat → Span)
    (seen : Nat → Except Failure α) (more : Nat) :
    (∃ count < more, ∃ result, polling.DecidedBy id clock seen count result ∧
      polling.waitFrom id clock (glance seen) more 0 0 = (result, count + 1) ∧
      polling.watchFrom id clock (glance seen) more 0 none none 0 =
        (changes (shown seen 0 (count + 1)) ++ [.closing result], count + 1)) ∨
    polling.LeaveUnfinished id clock seen 0 more ∧
      polling.waitFrom id clock (glance seen) more 0 0 = (seen more, more + 1) ∧
      polling.watchFrom id clock (glance seen) more 0 none none 0 =
        (changes (shown seen 0 (more + 1)) ++
          (polling.verdict? id (clock more) (seen more)).toList.map .closing, more + 1) := by
  obtain ⟨count, unfinished, hrun, hlength, hjobs, hbefore, hlast⟩ :=
    lookFrom_glance polling id clock seen more 0
  rw [Nat.zero_add] at hrun hjobs hlast
  have hverdict : polling.verdictAt? id clock 0 ⟨unfinished, seen count⟩ =
      polling.verdict? id (clock count) (seen count) := by
    rw [verdictAt?, hlength, Nat.zero_add]
  rw [waitFrom_eq, watchFrom_eq, map_glance _ hrun, map_glance _ hrun, hjobs, hverdict,
    changesFrom_none, hlength]
  rcases hlast with ⟨hless, hdecided⟩ | rfl
  · obtain ⟨result, hresult⟩ := Option.ne_none_iff_exists'.mp hdecided
    rw [if_pos hless, hresult]
    exact .inl ⟨count, hless, result, ⟨hbefore, hresult⟩, rfl, rfl⟩
  · rw [if_neg (Nat.lt_irrefl count)]
    exact .inr ⟨hbefore, rfl, rfl⟩

end Polling

/-! ### Looks on a network -/

/-- The network after the same question was asked a number of times, whatever the answers were. -/
def afterAsking {α : Type} (ask : Session α) (traffic : Traffic) : Nat → Traffic
  | 0 => traffic
  | count + 1 => (ask (afterAsking ask traffic count)).2

/-- What a question that is asked again and again is answered, one answer after another. -/
def answers {α : Type} (ask : Session α) (traffic : Traffic) (number : Nat) : Except Failure α :=
  (ask (afterAsking ask traffic number)).1

/-- Looking by asking on a network is looking at the sequence of the answers (`answers`), and it
leaves the network as so many questions leave it (`afterAsking`). -/
theorem lookFrom_attempt (polling : Polling) (id : String) (clock : Nat → Span) (ask : Session α)
    (traffic : Traffic) (more number : Nat) :
    polling.lookFrom id clock (ask.attempt : Session (Except Failure α)) more number
        (afterAsking ask traffic number) =
      (polling.lookFrom id clock (Polling.glance (answers ask traffic)) more number number).map
        .ok (afterAsking ask traffic) := by
  have hlook : ∀ number,
      (ask.attempt : Session (Except Failure α)) (afterAsking ask traffic number) =
        (.ok (answers ask traffic number), afterAsking ask traffic (number + 1)) :=
    fun _ ↦ rfl
  induction more generalizing number with
  | zero => rfl
  | succ more ih =>
    rw [Polling.lookFrom, Http.Exchange.bind_of_ok (hlook number)]
    cases hverdict : polling.verdict? id (clock number) (answers ask traffic number) with
    | some result =>
      rw [Polling.lookFrom_glance_of_some hverdict]
      cases answers ask traffic number <;> rfl
    | none =>
      obtain ⟨job, hjob⟩ := Polling.exists_job_of_verdict? hverdict
      rw [Polling.lookFrom_glance_of_ok hjob hverdict, hjob]
      exact Http.Exchange.bind_of_ok (ih (number + 1))

/-- What is made of the looks on a network is made of the sequence of the answers (`answers`), and
the network is left as the questions leave it. -/
theorem map_lookFrom_attempt {β : Type} (f : Looked α → β) (polling : Polling) (id : String)
    (clock : Nat → Span) (ask : Session α) (traffic : Traffic) (more : Nat) :
    (f <$> polling.lookFrom id clock (ask.attempt : Session (Except Failure α)) more 0) traffic =
      ((f <$> polling.lookFrom id clock (Polling.glance (answers ask traffic)) more 0 :
        StateM Nat β) 0).map .ok (afterAsking ask traffic) := by
  rw [map_eq_pure_bind]
  exact Http.Exchange.bind_of_ok (lookFrom_attempt polling id clock ask traffic more 0)

namespace Client

variable {client : Client} {id : String} {traffic : Traffic}

/-- An answer in JSON that can be read (`hread`) takes one of the replies that are to come, so there
are fewer behind it. -/
theorem length_replies_of_executeJson {β : Type} {request : Http.Request} {decode : Json.Decoder β}
    {value : β} {traffic : Traffic}
    (hread : (lift (Http.executeJson client.org.http decode request) traffic).1 = .ok value) :
    (lift (Http.executeJson client.org.http decode request) traffic).2.replies.length <
      traffic.replies.length := by
  obtain ⟨delivery, hattempt⟩ := Http.execute_attempt client.org.http request traffic
  rw [lift_executeJson] at hread ⊢
  cases hrun : Http.execute client.org.http request traffic with
  | mk answer traffic' =>
    rw [hrun] at hread hattempt
    cases answer with
    | error failure => cases hread
    | ok response => exact hattempt.of_ok.2

theorem length_replies_of_getJob {job : α} {traffic : Traffic}
    (hget : (getJob α client id traffic).1 = .ok job) :
    (getJob α client id traffic).2.replies.length < traffic.replies.length := by
  have hquestion : getJob α client id = lift (Http.executeJson client.org.http JobSnapshot.decode
      (client.org.request .get (client.jobUrl (JobSnapshot.kind α) id))) := rfl
  rw [hquestion] at hget ⊢
  exact length_replies_of_executeJson hget

theorem length_replies_afterAsking {polling : Polling} {clock : Nat → Span} {count : Nat}
    (hunfinished :
      polling.LeaveUnfinished id clock (answers (getJob α client id) traffic) 0 count) :
    (afterAsking (getJob α client id) traffic count).replies.length + count ≤
      traffic.replies.length := by
  induction count with
  | zero => exact Nat.le_refl _
  | succ count ih =>
    obtain ⟨job, hjob⟩ := Polling.exists_job_of_verdict? (hunfinished count (Nat.lt_succ_self _))
    rw [Nat.zero_add] at hjob
    have hlength := length_replies_of_getJob hjob
    have hbefore := ih fun k hk ↦ hunfinished k (Nat.lt_succ_of_lt hk)
    rw [afterAsking]
    omega

/-- Without replies that are to come (`hreplies`), a look fails: no job can be read from what a
message meets with then. -/
theorem exists_failure_of_no_replies (α : Type) [JobSnapshot α] (client : Client) (id : String)
    {traffic : Traffic} (hreplies : traffic.replies = []) :
    ∃ failure, (getJob α client id traffic).1 = .error failure := by
  cases hget : (getJob α client id traffic).1 with
  | error failure => exact ⟨failure, rfl⟩
  | ok job =>
    have hlength := length_replies_of_getJob hget
    rw [hreplies] at hlength
    cases hlength

/-- On a network some look decides: of the replies that are to come, each look that leaves the job
unfinished takes one. -/
theorem loops_look (client : Client) (clock : Nat → Span) (id : String) (traffic : Traffic) :
    ∃ count result,
      client.polling.DecidedBy id clock (answers (getJob α client id) traffic) count result ∧
      client.polling.waitFrom id clock (look α client id) traffic.replies.length 0 traffic =
        (.ok result, afterAsking (getJob α client id) traffic (count + 1)) ∧
      client.polling.watchFrom id clock (look α client id) traffic.replies.length 0 none none
          traffic =
        (.ok (changes (Polling.shown (answers (getJob α client id) traffic) 0 (count + 1)) ++
          [.closing result]), afterAsking (getJob α client id) traffic (count + 1)) := by
  have hwait : client.polling.waitFrom id clock (look α client id) traffic.replies.length 0
      traffic = _ :=
    (congrFun (Polling.waitFrom_eq _ _) traffic).trans (map_lookFrom_attempt _ client.polling id
      clock (getJob α client id) traffic traffic.replies.length)
  have hwatch : client.polling.watchFrom id clock (look α client id) traffic.replies.length 0
      none none traffic = _ :=
    (congrFun (Polling.watchFrom_eq _ _ _) traffic).trans (map_lookFrom_attempt _ client.polling id
      clock (getJob α client id) traffic traffic.replies.length)
  rw [← Polling.waitFrom_eq] at hwait
  rw [← Polling.watchFrom_eq] at hwatch
  rw [hwait, hwatch]
  rcases Polling.loops_glance client.polling id clock (answers (getJob α client id) traffic)
      traffic.replies.length with
    ⟨count, -, result, hdecided, hwaited, hwatched⟩ | ⟨hunfinished, hwaited, hwatched⟩
  · rw [hwaited, hwatched]
    exact ⟨count, result, hdecided, rfl, rfl⟩
  · have hlength := length_replies_afterAsking hunfinished
    have hempty : (afterAsking (getJob α client id) traffic traffic.replies.length).replies = [] :=
      List.eq_nil_of_length_eq_zero (by omega)
    obtain ⟨failure, hfailure⟩ := exists_failure_of_no_replies α client id hempty
    have hverdict : client.polling.verdict? id (clock traffic.replies.length)
        (answers (getJob α client id) traffic traffic.replies.length) = some (.error failure) := by
      rw [answers, hfailure]
      rfl
    rw [hwaited, hwatched, hverdict, answers, hfailure]
    exact ⟨traffic.replies.length, .error failure, ⟨hunfinished, hverdict⟩, rfl, rfl⟩

end Client

/-- Watching a job reports what waiting for it would see. On any sequence of looks, both end at the
first look that decides, and both go on where none does; on any network, both make the same requests
and end. What the observer is told is one change of state for each run of equal states, and behind
these the one event that says how waiting ends. -/
theorem watching_tells_waiting (α : Type) [JobSnapshot α] (client : Client) (clock : Nat → Span)
    (id : String) :
    (∀ (seen : Nat → Except Failure α) (more : Nat),
      (∃ count < more, ∃ result, client.polling.DecidedBy id clock seen count result ∧
        client.polling.waitFrom id clock (Polling.glance seen) more 0 0 = (result, count + 1) ∧
        client.polling.watchFrom id clock (Polling.glance seen) more 0 none none 0 =
          (changes (Polling.shown seen 0 (count + 1)) ++ [.closing result], count + 1)) ∨
      client.polling.LeaveUnfinished id clock seen 0 more ∧
        client.polling.waitFrom id clock (Polling.glance seen) more 0 0 = (seen more, more + 1) ∧
        client.polling.watchFrom id clock (Polling.glance seen) more 0 none none 0 =
          (changes (Polling.shown seen 0 (more + 1)) ++
            (client.polling.verdict? id (clock more) (seen more)).toList.map .closing, more + 1)) ∧
    ∀ traffic : Traffic, ∃ count result,
      client.polling.DecidedBy id clock (answers (client.getJob α id) traffic) count result ∧
      client.waitForJob α clock id traffic =
        (result, afterAsking (client.getJob α id) traffic (count + 1)) ∧
      client.watchJob α clock id none traffic =
        (.ok { events := changes
                (Polling.shown (answers (client.getJob α id) traffic) 0 (count + 1)) ++
                  [.closing result]
               ended := true },
          afterAsking (client.getJob α id) traffic (count + 1)) := by
  refine ⟨Polling.loops_glance client.polling id clock, fun traffic ↦ ?_⟩
  obtain ⟨count, result, hdecided, hwait, hwatch⟩ := Client.loops_look (α := α) client clock id
    traffic
  have hget : (MonadState.get : Session Traffic) traffic = (.ok traffic, traffic) := rfl
  refine ⟨count, result, hdecided, ?_, ?_⟩
  · unfold Client.waitForJob
    rw [Http.Exchange.bind_of_ok hget, Http.Exchange.bind_of_ok hwait]
    rfl
  · unfold Client.watchJob
    rw [Http.Exchange.bind_of_ok hget, Http.Exchange.bind_of_ok hwatch]
    rfl

end BulkJobs
