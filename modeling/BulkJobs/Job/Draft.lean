import BulkJobs.Failure
import BulkJobs.Job.Format
import BulkJobs.Job.Operation

/-!
# Drafts of jobs

What a caller asks for. A draft is checked here before it is sent, so that a job that cannot work is
never created.
-/

set_option autoImplicit false
set_option relaxedAutoImplicit false

namespace BulkJobs

/-- An ingest job to be created, with comma and line feed for the form of its data unless something
else is asked for. -/
structure IngestDraft where
  object : String
  operation : Operation
  externalIdField : Option String := none
  contentType : ContentType := .csv
  columnDelimiter : ColumnDelimiter := .comma
  lineEnding : LineEnding := .lf
deriving DecidableEq, Repr

namespace IngestDraft

/-- The members of the draft in JSON, in order of declaration; an external id field that is not
given is left out. -/
def members (draft : IngestDraft) : List (String × Json) :=
  [("object", .text draft.object), ("operation", .text draft.operation.name)] ++
    (match draft.externalIdField with
      | some field => [("externalIdFieldName", .text field)]
      | none => []) ++
    [("contentType", .text draft.contentType.name),
      ("columnDelimiter", .text draft.columnDelimiter.name),
      ("lineEnding", .text draft.lineEnding.name)]

def encode (draft : IngestDraft) : Json :=
  Json.ofMembers draft.members

/-- What is wrong with the draft, if anything: a blank object, an operation that reads, or an upsert
without a field to match records by. -/
def complaint? (draft : IngestDraft) : Option String :=
  if Text.isBlankText draft.object then some "object must not be empty"
  else if draft.operation.isQuery then
    some (draft.operation.name ++ " is a query operation; create a query job instead")
  else if draft.operation == .upsert && (draft.externalIdField.map Text.isBlankText).getD true then
    some "upsert requires an external id field"
  else none

/-- Check the draft: its `complaint?` is the message of the failure. -/
def validate (draft : IngestDraft) : Except Failure Unit :=
  match draft.complaint? with
  | some complaint => .error (.invalidRequest complaint)
  | none => .ok ()

end IngestDraft

/-- A query job to be created. -/
structure QueryDraft where
  query : String
  operation : Operation := .query
  columnDelimiter : ColumnDelimiter := .comma
  lineEnding : LineEnding := .lf
deriving DecidableEq, Repr

namespace QueryDraft

/-- The members of the draft in JSON, in order of declaration; what is not given is left out. -/
def members (draft : QueryDraft) : List (String × Json) :=
  [("query", .text draft.query), ("operation", .text draft.operation.name),
    ("columnDelimiter", .text draft.columnDelimiter.name),
    ("lineEnding", .text draft.lineEnding.name)]

def encode (draft : QueryDraft) : Json :=
  Json.ofMembers draft.members

/-- What is wrong with the draft, if anything. -/
def complaint? (draft : QueryDraft) : Option String :=
  if Text.isBlankText draft.query then some "query must not be empty"
  else if !draft.operation.isQuery then some (draft.operation.name ++ " is not a query operation")
  else none

/-- Check the draft: its `complaint?` is the message of the failure. -/
def validate (draft : QueryDraft) : Except Failure Unit :=
  match draft.complaint? with
  | some complaint => .error (.invalidRequest complaint)
  | none => .ok ()

end QueryDraft

/-- The operation a person means by a name, and otherwise a failure that quotes the name. -/
def Operation.parse (name : String) : Except Failure Operation :=
  match Operation.ofName? name with
  | some operation => .ok operation
  | none => .error (.invalidRequest ("unknown bulk operation: " ++ name))

end BulkJobs
