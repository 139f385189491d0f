import BulkJobs.Client.Jobs

/-!
# Waiting for jobs and watching them

Both look at a job again and again, with a pause between two looks, until the job is done, a look
fails, or the time is up. Waiting gives the last snapshot; watching reports every change of state on
the way. The loops are the same for any way to look at a job. The clock says how much time had
passed at each look that leaves the job unfinished.
-/

set_option autoImplicit false
set_option relaxedAutoImplicit false

namespace BulkJobs

/-- What the observer of a watched job is told: a change of its state, that it is done, or why the
watching failed. -/
inductive JobEvent (α : Type) where
  | stateChanged (previous : Option JobState) (job : α)
  | finished (job : α)
  | failed (failure : Failure)
deriving DecidableEq, Repr

namespace Polling

/-- Whether another pause would pass the time after which to give up. -/
def isOverdue (polling : Polling) (elapsed : Span) : Bool :=
  match polling.timeout with
  | some timeout => (elapsed + polling.interval).nanoseconds > timeout.nanoseconds
  | none => false

/-- How a look at a job ends the waiting for it, if it does: with a job that is done, with a
failure, or because time is up. -/
def verdict? {α : Type} [JobSnapshot α] (polling : Polling) (id : String) (elapsed : Span)
    (look : Except Failure α) : Option (Except Failure α) :=
  match look with
  | .error failure => some (.error failure)
  | .ok job =>
    if (JobSnapshot.state job).isTerminal then some (.ok job)
    else if polling.isOverdue elapsed then
      some (.error (.plain (.timeout id (JobSnapshot.state job) elapsed)))
    else none

/-- Wait for a job from the look with the given number on. After `more` looks that leave the job
unfinished one more look decides, whatever it shows. -/
def waitFrom {α : Type} [JobSnapshot α] {m : Type → Type} [Monad m] (polling : Polling)
    (id : String) (clock : Nat → Span) (look : m (Except Failure α)) :
    Nat → Nat → m (Except Failure α)
  | 0, _ => look
  | more + 1, number => do
    match polling.verdict? id (clock number) (← look) with
    | some result => return result
    | none => waitFrom polling id clock look more (number + 1)

/-- The events of one look: a change of state first, and then the end if `verdict?` says that the
look is the last one. -/
def events {α : Type} [JobSnapshot α] (polling : Polling) (id : String) (elapsed : Span)
    (last : Option JobState) (look : Except Failure α) : List (JobEvent α) :=
  let change := match look with
    | .ok job =>
      if last = some (JobSnapshot.state job) then [] else [JobEvent.stateChanged last job]
    | .error _ => []
  match polling.verdict? id elapsed look with
  | some (.ok job) => change ++ [.finished job]
  | some (.error failure) => change ++ [.failed failure]
  | none => change

/-- The state that a look shows, if it shows one. -/
def stateAfter {α : Type} [JobSnapshot α] (last : Option JobState) (look : Except Failure α) :
    Option JobState :=
  match look with
  | .ok job => some (JobSnapshot.state job)
  | .error _ => last

/-- Watch a job from the look with the given number on. An observer who has room for only so many
events leaves when the room is used up, and then nobody looks any more. -/
def watchFrom {α : Type} [JobSnapshot α] {m : Type → Type} [Monad m] (polling : Polling)
    (id : String) (clock : Nat → Span) (look : m (Except Failure α)) :
    Nat → Nat → Option JobState → Option Nat → m (List (JobEvent α))
  | 0, number, last, _ => return polling.events id (clock number) last (← look)
  | more + 1, number, last, room => do
    let seen ← look
    let told := polling.events id (clock number) last seen
    let roomLeft := room.map (· - told.length)
    if (polling.verdict? id (clock number) seen).isSome || roomLeft == some 0 then return told
    else
      let later ←
        watchFrom polling id clock look more (number + 1) (stateAfter last seen) roomLeft
      return told ++ later

end Polling

/-- What an observer of a watched job has received, and whether the end of the events was seen. -/
structure Watched (α : Type) where
  events : List (JobEvent α)
  ended : Bool
deriving DecidableEq, Repr

namespace Client

/-- A look at a job, which shows its snapshot or fails; the failure is a value, as it does not end
the session. -/
def look (α : Type) [JobSnapshot α] (client : Client) (id : String) : Session (Except Failure α) :=
  (getJob α client id).attempt

/-- Wait until a job is done, by `waitFrom` with the first look. No more looks can succeed than
replies are still to come. -/
def waitForJob (α : Type) [JobSnapshot α] (client : Client) (clock : Nat → Span) (id : String) :
    Session α := do
  let traffic ← get
  let result ← client.polling.waitFrom id clock (look α client id) traffic.replies.length 0
  Http.Exchange.ofExcept result

/-- Watch a job by `watchFrom` until it is done, or until the observer has received enough events.
-/
def watchJob (α : Type) [JobSnapshot α] (client : Client) (clock : Nat → Span) (id : String)
    (room : Option Nat) : Session (Watched α) := do
  let traffic ← get
  let events ←
    client.polling.watchFrom id clock (look α client id) traffic.replies.length 0 none room
  match room with
  | some room => return { events := events.take room, ended := events.length < room }
  | none => return { events, ended := true }

end Client

end BulkJobs
