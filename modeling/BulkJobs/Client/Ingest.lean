import BulkJobs.Client.Watch
import BulkJobs.Job.Draft
import BulkJobs.Results.Outcome

/-!
# Ingest jobs

An ingest job is created, fed with data and closed; then the service works on it, and its results
can be fetched as three artifacts.
-/

set_option autoImplicit false
set_option relaxedAutoImplicit false

namespace BulkJobs

/-- The results of an ingest job: the rows that were processed, those that failed, and those that
were not attempted. -/
inductive Artifact where
  | successful
  | failed
  | unprocessed
deriving DecidableEq, Repr

/-- The path segment of an artifact. -/
def Artifact.path : Artifact → String
  | .successful => "successfulResults"
  | .failed => "failedResults"
  | .unprocessed => "unprocessedrecords"

namespace Client

/-- Create an ingest job. A draft that `validate` finds something wrong with is not sent. -/
def createIngestJob (client : Client) (draft : IngestDraft) : Session IngestJob := do
  Http.Exchange.ofExcept draft.validate
  lift (client.org.postJson IngestJob.decode (client.kindUrl .ingest) draft.encode)

/-- Upload data to an open job, as CSV data of bytes that are not looked at. -/
def upload (client : Client) (id : String) (data : Octets) : Session Unit := do
  let request := client.org.request .put (client.resourceUrl .ingest id "batches")
  let _ ← lift (client.org.execute (request.withCsv data))

/-- Say that all data is uploaded, so that the service processes it. -/
def closeJob (client : Client) (id : String) : Session IngestJob :=
  lift (client.org.patchJson IngestJob.decode (client.jobUrl .ingest id)
    (stateChange .uploadComplete))

/-- Fetch an artifact as the bytes that it is made of. -/
def fetchArtifact (client : Client) (artifact : Artifact) (id : String) : Session Octets := do
  let request := client.org.request .get (client.resourceUrl .ingest id artifact.path)
  let response ← lift (client.org.execute request.acceptingCsv)
  lift (Http.Exchange.ofExcept response.streamBytes)

/-- Fetch an artifact as a table, whose columns the delimiter separates. -/
def fetchSet (client : Client) (delimiter : ColumnDelimiter) (artifact : Artifact) (id : String) :
    Session ResultSet := do
  Http.Exchange.ofExcept (ResultBody.asSet delimiter (← client.fetchArtifact artifact id))

/-- Upload data to a job that was just created. If that fails, the job is aborted, so that it does
not stay open, and the failure of the upload counts. -/
def uploadOrAbort (client : Client) (id : String) (data : Octets) : Session Unit := do
  match ← (client.upload id data).attempt with
  | .ok () => return ()
  | .error failure => do
    let _ : Except Failure IngestJob ← (abortJob IngestJob client id).attempt
    throw failure

/-- Fetch all three artifacts of a job as tables, if the job was processed to its end. -/
def ingestOutcome (client : Client) (delimiter : ColumnDelimiter) (job : IngestJob) :
    Session IngestOutcome := do
  if job.state.isSuccess then
    let successful ← client.fetchSet delimiter .successful job.id
    let failed ← client.fetchSet delimiter .failed job.id
    let unprocessed ← client.fetchSet delimiter .unprocessed job.id
    return { job, successful := some successful, failed := some failed,
             unprocessed := some unprocessed }
  else return { job, successful := none, failed := none, unprocessed := none }

/-- Create an ingest job, upload its data, close it, wait for it and fetch its results. From the
waiting on, the snapshot that was got last says which job it is. -/
def runIngest (client : Client) (clock : Nat → Span) (draft : IngestDraft) (data : Octets) :
    Session IngestOutcome := do
  let created ← client.createIngestJob draft
  client.uploadOrAbort created.id data
  let _ ← client.closeJob created.id
  let job ← waitForJob IngestJob client clock created.id
  client.ingestOutcome draft.columnDelimiter job

end Client

end BulkJobs
