import BulkJobs.Job.Format
import BulkJobs.Job.Kind
import BulkJobs.Job.Operation
import BulkJobs.Job.State
import BulkJobs.Json.Record
import BulkJobs.Time.Timestamp

/-!
# Job snapshots

What the service says about a job at some moment. Members that are not listed here are ignored, so
that newer versions of the service keep working.
-/

set_option autoImplicit false
set_option relaxedAutoImplicit false

namespace BulkJobs

/-- Decode an API version, which is written as a number or as a string. A number is kept with one
digit after the decimal point. -/
def decodeApiVersion : Json.Decoder String := fun depth tree ↦ do
  match ← Json.Decoder.anything depth tree with
  | .text version => return version
  | .number (.natural n) => version (Binary64.ofNat? n)
  | .number (.negated n) => version ((Binary64.ofNat? n).map (Binary64.withSign true))
  | .number (.real x) => version (some x)
  | _ => throw (.noAlternative "Wire")
where
  version : Option Binary64 → Except Json.Problem String
    | some x => .ok x.oneDecimal
    | none => .error .malformed

/-- A snapshot of an ingest job. -/
structure IngestJob where
  id : String
  state : JobState
  object : String
  operation : Operation
  externalIdField : Option String
  contentType : Option ContentType
  columnDelimiter : Option ColumnDelimiter
  lineEnding : Option LineEnding
  recordsProcessed : Nat
  recordsFailed : Nat
  retries : Option Nat
  createdDate : Option String
  systemModstamp : Option String
  totalProcessingTime : Option Nat
  apiVersion : Option String
  concurrencyMode : Option String
  jobType : Option String
  errorMessage : Option String
deriving DecidableEq, Repr

namespace IngestJob

open Json in
/-- The members of an ingest job in JSON, in order of declaration, which is also their order in an
array. -/
def layout : Layout IngestJob :=
  Layout.start IngestJob.mk
    |>.field (.required "id" .text)
    |>.field (.required "state" JobState.decode)
    |>.field (.required "object" .text)
    |>.field (.required "operation" Operation.decode)
    |>.field (.optional "externalIdFieldName" .text)
    |>.field (.optional "contentType" ContentType.decode)
    |>.field (.optional "columnDelimiter" ColumnDelimiter.decode)
    |>.field (.optional "lineEnding" LineEnding.decode)
    |>.field (.withDefault "numberRecordsProcessed" 0 .natural64)
    |>.field (.withDefault "numberRecordsFailed" 0 .natural64)
    |>.field (.optional "retries" .natural32)
    |>.field (.optional "createdDate" .text)
    |>.field (.optional "systemModstamp" .text)
    |>.field (.optional "totalProcessingTime" .natural64)
    |>.field (.optional "apiVersion" decodeApiVersion)
    |>.field (.optional "concurrencyMode" .text)
    |>.field (.optional "jobType" .text)
    |>.field (.optional "errorMessage" .text)

def decode : Json.Decoder IngestJob :=
  layout.decoder "struct IngestJob"

end IngestJob

/-- A snapshot of a query job. -/
structure QueryJob where
  id : String
  state : JobState
  operation : Operation
  query : Option String
  object : Option String
  columnDelimiter : Option ColumnDelimiter
  lineEnding : Option LineEnding
  recordsProcessed : Nat
  createdDate : Option String
  systemModstamp : Option String
  apiVersion : Option String
  errorMessage : Option String
deriving DecidableEq, Repr

namespace QueryJob

open Json in
/-- The members of a query job in JSON, in order of declaration, which is also their order in an
array. -/
def layout : Layout QueryJob :=
  Layout.start QueryJob.mk
    |>.field (.required "id" .text)
    |>.field (.required "state" JobState.decode)
    |>.field (.required "operation" Operation.decode)
    |>.field (.optional "query" .text)
    |>.field (.optional "object" .text)
    |>.field (.optional "columnDelimiter" ColumnDelimiter.decode)
    |>.field (.optional "lineEnding" LineEnding.decode)
    |>.field (.withDefault "numberRecordsProcessed" 0 .natural64)
    |>.field (.optional "createdDate" .text)
    |>.field (.optional "systemModstamp" .text)
    |>.field (.optional "apiVersion" decodeApiVersion)
    |>.field (.optional "errorMessage" .text)

def decode : Json.Decoder QueryJob :=
  layout.decoder "struct QueryJob"

end QueryJob

/-- What the snapshots of both families of jobs have in common: the family, how they are decoded,
and what listing, waiting and fetching look at. -/
class JobSnapshot (α : Type) where
  kind : JobKind
  decode : Json.Decoder α
  id : α → String
  state : α → JobState
  errorMessage : α → Option String
  createdDate : α → Option String
  columnDelimiter : α → Option ColumnDelimiter

instance : JobSnapshot IngestJob where
  kind := .ingest
  decode := IngestJob.decode
  id := IngestJob.id
  state := IngestJob.state
  errorMessage := IngestJob.errorMessage
  createdDate := IngestJob.createdDate
  columnDelimiter := IngestJob.columnDelimiter

instance : JobSnapshot QueryJob where
  kind := .query
  decode := QueryJob.decode
  id := QueryJob.id
  state := QueryJob.state
  errorMessage := QueryJob.errorMessage
  createdDate := QueryJob.createdDate
  columnDelimiter := QueryJob.columnDelimiter

namespace JobSnapshot

/-- When the job was created, if the snapshot says so in a spelling that `Timestamp.parse?`
understands. -/
def createdAt {α : Type} [JobSnapshot α] (job : α) : Option Timestamp :=
  (createdDate job).bind Timestamp.parse?

/-- The delimiter of the job's data; commas unless the snapshot says otherwise. -/
def delimiter {α : Type} [JobSnapshot α] (job : α) : ColumnDelimiter :=
  (columnDelimiter job).getD .comma

end JobSnapshot

end BulkJobs
