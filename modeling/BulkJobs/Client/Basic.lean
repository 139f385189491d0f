import BulkJobs.Failure
import BulkJobs.Job.Kind
import BulkJobs.Org

/-!
# Clients

A client of the jobs of an org, and the URLs of the jobs. A job id is one segment of a URL, whatever
characters it has.
-/

set_option autoImplicit false
set_option relaxedAutoImplicit false

namespace BulkJobs

/-- How to wait for a job: the pause between two looks at it, and how long to go on looking. -/
structure Polling where
  interval : Span := .ofSeconds 2
  /-- The time after which to give up; without one the waiting ends only with the job. -/
  timeout : Option Span := none
deriving DecidableEq, Repr

/-- The settings for diagnostics, as their fields with the times in them. -/
def Polling.describe (polling : Polling) : String :=
  let timeout := match polling.timeout with
    | some timeout => "Some(" ++ timeout.describe ++ ")"
    | none => "None"
  "PollConfig \x7b interval: " ++ polling.interval.describe ++ ", timeout: " ++ timeout ++ " \x7d"

/-- A client of the jobs of an org, with the way in which it waits for them. -/
structure Client where
  org : Org
  polling : Polling := {}
deriving DecidableEq, Repr

/-- A computation of a client: an exchange over the network that can fail in all the ways of
`Failure`. -/
abbrev Session (α : Type) :=
  Http.Exchange Failure α

/-- A computation of a client that stops at each message it sends, and can be joined with another
one there. -/
abbrev Steps (α : Type) :=
  ExceptT Failure Http.Process α

namespace Client

/-- A computation of the org as one of the client: its failures are those of requests. -/
def lift {α : Type} (exchange : Http.Exchange Http.Failure α) : Session α :=
  exchange.mapFailure Failure.ofHttp

/-- The URL of a family of jobs, below the root of all jobs. -/
def kindUrl (client : Client) (kind : JobKind) : String :=
  client.org.jobsUrl kind.path

/-- The URL of a job, with its id encoded as one path segment. -/
def jobUrl (client : Client) (kind : JobKind) (id : String) : String :=
  client.org.jobsUrl (kind.path ++ "/" ++ Percent.encodeSegment id)

/-- The URL of a part of a job, below `jobUrl`. -/
def resourceUrl (client : Client) (kind : JobKind) (id resource : String) : String :=
  client.jobUrl kind id ++ "/" ++ resource

/-- The client for diagnostics, without the access token. -/
def describe (client : Client) : String :=
  "BulkClient \x7b client: " ++ client.org.describe ++ ", poll: " ++ client.polling.describe ++
    " \x7d"

end Client

end BulkJobs
