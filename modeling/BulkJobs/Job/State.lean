import BulkJobs.Json.Decode

/-!
# Job states

A job is open while data is uploaded, then waits, runs, and ends in one of three terminal states.
-/

set_option autoImplicit false
set_option relaxedAutoImplicit false

namespace BulkJobs

/-- The state of a job. -/
inductive JobState where
  | opened
  | uploadComplete
  | inProgress
  | jobComplete
  | failed
  | aborted
deriving DecidableEq, Repr

namespace JobState

def all : List JobState :=
  [.opened, .uploadComplete, .inProgress, .jobComplete, .failed, .aborted]

/-- The name of a state in JSON and in messages. -/
def name : JobState → String
  | .opened => "Open"
  | .uploadComplete => "UploadComplete"
  | .inProgress => "InProgress"
  | .jobComplete => "JobComplete"
  | .failed => "Failed"
  | .aborted => "Aborted"

/-- Whether a job in this state will not change any more: it is done, failed or aborted. -/
def isTerminal : JobState → Bool
  | .jobComplete | .failed | .aborted => true
  | _ => false

/-- Whether a job in this state was processed to its end. -/
def isSuccess (state : JobState) : Bool :=
  state == .jobComplete

/-- Whether a job in this state takes data. -/
def acceptsUploads (state : JobState) : Bool :=
  state == .opened

def decode : Json.Decoder JobState :=
  .alternative (all.map fun state ↦ (state.name, state))

end JobState

end BulkJobs
