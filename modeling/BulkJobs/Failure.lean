import BulkJobs.Credentials
import BulkJobs.Csv.Problem
import BulkJobs.Http.Failure
import BulkJobs.Job.State

/-!
# Why an operation on jobs fails

Failures of the layers below are sorted by what a caller can do about them. The status of a refusal
is kept.
-/

set_option autoImplicit false
set_option relaxedAutoImplicit false

namespace BulkJobs

/-- The kinds of failures of operations on jobs, those of requests among them. -/
inductive FailureKind where
  | notFound (detail : String)
  /-- The request makes no sense, as found here or, with a status, by the service. -/
  | invalidRequest (status : Option Nat) (detail : String)
  | auth (status : Option Nat) (detail : String)
  | service (status : Nat) (detail : String)
  | transport (detail : String)
  | csv (detail : String)
  | timeout (id : String) (state : JobState) (elapsed : Span)
  | config (detail : String)
  | other (detail : String)
deriving DecidableEq, Repr

structure Failure where
  kind : FailureKind
  caused : Bool
deriving DecidableEq, Repr

namespace Failure

/-- A failure of a kind that was found here, with no error of a lower layer behind it. -/
def plain (kind : FailureKind) : Failure :=
  { kind, caused := false }

/-- A request that is refused here, before anything is sent. -/
def invalidRequest (detail : String) : Failure :=
  .plain (.invalidRequest none detail)

/-- The status of the reply that a refusal goes back to, if the failure is one. -/
def status? (failure : Failure) : Option Nat :=
  match failure.kind with
  | .notFound _ => some 404
  | .invalidRequest status _ => status
  | .auth status _ => status
  | .service status _ => some status
  | _ => none

/-- Whether the service said that there is no such thing. -/
def isNotFound (failure : Failure) : Bool :=
  match failure.kind with
  | .notFound _ => true
  | _ => false

def message (failure : Failure) : String :=
  match failure.kind with
  | .notFound detail => "Not found: " ++ detail
  | .invalidRequest _ detail => "Invalid request: " ++ detail
  | .auth _ detail => "Auth error: " ++ detail
  | .service status detail => "API error (" ++ toString status ++ "): " ++ detail
  | .transport detail => "Transport error: " ++ detail
  | .csv detail => "CSV error: " ++ detail
  | .timeout id state elapsed =>
    "Timeout: job " ++ id ++ " still " ++ state.name ++ " after " ++ elapsed.describe
  | .config detail => "Configuration error: " ++ detail
  | .other detail => detail

/-- The kind of failure that a failure of a request amounts to: a refusal with status 400 says that
the request makes no sense. -/
def kindOfHttp (failure : Http.FailureKind) : FailureKind :=
  match failure.status? with
  | some status =>
    if status == 404 then .notFound failure.message
    else if status == 400 then .invalidRequest (some 400) failure.message
    else if status == 401 || status == 403 then .auth (some status) failure.message
    else .service status failure.message
  | none =>
    match failure with
    | .timeout | .connection _ => .transport failure.message
    | .config _ | .invalidUrl _ => .config failure.message
    | _ => .other failure.message

/-- A failure of a request as a failure of an operation on jobs. -/
def ofHttp (failure : Http.Failure) : Failure :=
  { kind := kindOfHttp failure.kind, caused := true }

/-- A failure to find credentials as a failure of an operation on jobs. -/
def ofCredentials (failure : CredentialFailure) : Failure :=
  { kind := .config failure.message, caused := true }

/-- A problem with CSV data as a failure of an operation on jobs. -/
def ofCsv (problem : Csv.Problem) : Failure :=
  { kind := .csv problem.message, caused := true }

end Failure

end BulkJobs
