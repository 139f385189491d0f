import BulkJobs.Job.Snapshot
import BulkJobs.Results.Body

/-!
# Outcomes

What is left of a job after its end: the last snapshot and, if it was processed to its end, what it
produced.
-/

set_option autoImplicit false
set_option relaxedAutoImplicit false

namespace BulkJobs

/-- The outcome of an ingest job: its last snapshot, and its artifacts if they were fetched. -/
structure IngestOutcome where
  job : IngestJob
  successful : Option ResultSet
  failed : Option ResultSet
  unprocessed : Option ResultSet
deriving DecidableEq, Repr

namespace IngestOutcome

/-- Whether the job was processed to its end. -/
def isSuccess (outcome : IngestOutcome) : Bool :=
  outcome.job.state.isSuccess

/-- The number of rows of an artifact, none if there is no artifact. -/
def count (artifact : Option ResultSet) : Nat :=
  (artifact.map ResultSet.rowCount).getD 0

def successfulCount (outcome : IngestOutcome) : Nat :=
  count outcome.successful

def failedCount (outcome : IngestOutcome) : Nat :=
  count outcome.failed

def unprocessedCount (outcome : IngestOutcome) : Nat :=
  count outcome.unprocessed

end IngestOutcome

/-- The outcome of a query job: its last snapshot, and its result if it was fetched. -/
structure QueryOutcome where
  job : QueryJob
  /-- The joined pages of the result. -/
  csv : Option String
deriving DecidableEq, Repr

namespace QueryOutcome

/-- Whether the job was processed to its end. -/
def isSuccess (outcome : QueryOutcome) : Bool :=
  outcome.job.state.isSuccess

/-- The result as a table, read with the delimiter of the job. -/
def resultSet (outcome : QueryOutcome) : Except Failure (Option ResultSet) :=
  match outcome.csv with
  | none => .ok none
  | some csv => (ResultBody.asSet (JobSnapshot.delimiter outcome.job) (Utf8.encode csv)).map some

end QueryOutcome

end BulkJobs
