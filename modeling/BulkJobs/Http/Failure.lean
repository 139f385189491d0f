import BulkJobs.Time.Span

/-!
# Why a request fails

A request fails on the way, or the service refuses it. A refusal always carries the status of the
reply; nothing else does.
-/

set_option autoImplicit false
set_option relaxedAutoImplicit false

namespace BulkJobs.Http

/-- The kinds of failures of requests, each with what its message says. -/
inductive FailureKind where
  /-- The service refused without further classification. -/
  | refused (status : Nat) (detail : String)
  /-- The service refused and said why in its own terms. -/
  | service (status : Nat) (code detail : String) (fields : List String)
  | rateLimited (retryAfter : Option Span)
  | authentication (detail : String)
  | authorization (detail : String)
  | notFound (detail : String)
  /-- No answer came in time. -/
  | timeout
  | connection (detail : String)
  /-- An answer came, but its body does not read or does not decode. -/
  | json (detail : String)
  | invalidUrl (detail : String)
  | config (detail : String)
  | other (detail : String)
deriving DecidableEq, Repr

namespace FailureKind

/-- The status of the reply that a refusal goes back to; failures of other kinds go back to none. -/
def status? : FailureKind → Option Nat
  | .refused status _ => some status
  | .service status _ _ _ => some status
  | .rateLimited _ => some 429
  | .authentication _ => some 401
  | .authorization _ => some 403
  | .notFound _ => some 404
  | _ => none

/-- The message of a failure of this kind. -/
def message : FailureKind → String
  | .refused status detail => "HTTP error: " ++ toString status ++ " " ++ detail
  | .service status code detail _ =>
    "Salesforce API error (" ++ toString status ++ "): " ++ code ++ " - " ++ detail
  | .rateLimited none => "Rate limited"
  | .rateLimited (some wait) => "Rate limited, retry after " ++ wait.describe
  | .authentication detail => "Authentication error: " ++ detail
  | .authorization detail => "Authorization error: " ++ detail
  | .notFound detail => "Not found: " ++ detail
  | .timeout => "Request timeout"
  | .connection detail => "Connection error: " ++ detail
  | .json detail => "JSON error: " ++ detail
  | .invalidUrl detail => "Invalid URL: " ++ detail
  | .config detail => "Configuration error: " ++ detail
  | .other detail => detail

end FailureKind

/-- A failure of a request: its kind, and whether an error of a lower layer is behind it. -/
structure Failure where
  kind : FailureKind
  caused : Bool
deriving DecidableEq, Repr

namespace Failure

/-- A failure of a kind that was found here, with no error of a lower layer behind it. -/
def plain (kind : FailureKind) : Failure :=
  { kind, caused := false }

/-- A failure that an error of a lower layer led to. -/
def dueTo (kind : FailureKind) : Failure :=
  { kind, caused := true }

def message (failure : Failure) : String :=
  failure.kind.message

def status? (failure : Failure) : Option Nat :=
  failure.kind.status?

/-- Whether the service said that there is no such thing. -/
def isNotFound (failure : Failure) : Bool :=
  failure.status? == some 404

/-- Whether the request did not get through. -/
def isTransport (failure : Failure) : Bool :=
  match failure.kind with
  | .timeout | .connection _ => true
  | _ => false

/-- Whether the service asks to slow down. -/
def isRateLimited (failure : Failure) : Bool :=
  match failure.kind with
  | .rateLimited _ => true
  | _ => false

/-- How long the service asks to wait. -/
def retryAfter? (failure : Failure) : Option Span :=
  match failure.kind with
  | .rateLimited wait => wait
  | _ => none

end Failure

end BulkJobs.Http
