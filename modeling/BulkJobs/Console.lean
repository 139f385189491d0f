import BulkJobs.Client.Builder
import BulkJobs.Client.Ingest
import BulkJobs.Client.Query

/-!
# The command line

Six commands on the jobs of the org that the environment names. Results go to standard output and
complaints to standard error; the exit status is zero only when everything that was asked for was
done. An argument that is no text, or output that cannot be written, ends the program at once.
-/

set_option autoImplicit false
set_option relaxedAutoImplicit false

namespace BulkJobs.Console

/-- What can be asked for on the command line. -/
inductive Command where
  /-- Run an ingest job with the data of a file; perhaps with an operation and an external id field.
  -/
  | ingest (object file : String) (more : List String)
  /-- Run a query job and print its result. -/
  | query (soql : String)
  | jobs
  | status (id : String)
  | abort (id : String)
  | delete (id : String)
deriving DecidableEq, Repr

/-- The command that arguments ask for, if they ask for one that is known. -/
def Command.parse? : List String → Option Command
  | "ingest" :: object :: file :: more => some (.ingest object file more)
  | ["query", soql] => some (.query soql)
  | ["jobs"] => some .jobs
  | ["status", id] => some (.status id)
  | ["abort", id] => some (.abort id)
  | ["delete", id] => some (.delete id)
  | _ => none

/-- What is printed when the arguments ask for nothing that is known. -/
def usage : String :=
  "usage:\n" ++
  "  bulkline ingest <Object> <file.csv> [operation] [externalIdField]\n" ++
  "  bulkline query \"<SOQL>\"\n" ++
  "  bulkline jobs\n" ++
  "  bulkline status <jobId>\n" ++
  "  bulkline abort <jobId>\n" ++
  "  bulkline delete <jobId>\n"

/-- What a command has to say: its output, and a complaint if it did not achieve what was asked
for. -/
structure Report where
  output : String
  complaint : Option String := none
deriving DecidableEq, Repr

/-- What is outside the program besides the network. -/
structure Surroundings where
  environment : Environment
  /-- The content of a file, or why it cannot be read. -/
  fileContent : String → Except String Octets
  /-- The time passed at each look at an unfinished job. -/
  clock : Nat → Span
  /-- Which of two listings under way goes on at each message: the one of ingest jobs, if true. -/
  turns : List Bool := []
  /-- Whether standard output takes a text, and otherwise the part of it that got out. -/
  print : String → Except String Unit := fun _ ↦ .ok ()

def line (parts : List String) : String :=
  String.join parts ++ "\n"

/-- A job with its state. -/
def jobLine {α : Type} [JobSnapshot α] (job : α) : String :=
  line ["job ", JobSnapshot.id job, " ", (JobSnapshot.state job).name]

/-- What there is to say about a finished ingest job. -/
def ingestReport (outcome : IngestOutcome) : Report where
  output :=
    jobLine outcome.job ++
      (match outcome.job.errorMessage with
        | some message => line ["  error: ", message]
        | none => "") ++
      line ["  successful: ", toString outcome.successfulCount,
        "  failed: ", toString outcome.failedCount,
        "  unprocessed: ", toString outcome.unprocessedCount] ++
      (match outcome.failed with
        | some failed => String.join (failed.rows.map fun row ↦ line ["  ", ",".intercalate row])
        | none => "")
  complaint :=
    if outcome.isSuccess then none
    else some ("job ended in state " ++ outcome.job.state.name)

/-- Run an ingest job with the data of a file. The operation is looked at first, and then the
file. -/
def ingest (client : Client) (surroundings : Surroundings) (object file : String)
    (more : List String) : Session Report := do
  let operation ← Http.Exchange.ofExcept
    (match more.head? with
      | some name => Operation.parse name
      | none => .ok .insert)
  let draft : IngestDraft := { object, operation, externalIdField := more[1]? }
  match surroundings.fileContent file with
  | .error reason => return { output := "", complaint := some reason }
  | .ok data => return ingestReport (← client.runIngest surroundings.clock draft data)

/-- What there is to say about a finished query job. -/
def queryReport (outcome : QueryOutcome) : Report :=
  match outcome.csv with
  | some csv => { output := csv }
  | none => {
      output := ""
      complaint := some
        ("job " ++ outcome.job.id ++ " ended in state " ++ outcome.job.state.name ++ ": " ++
          outcome.job.errorMessage.getD "no message") }

/-- The jobs of both families, one per line. -/
def listing (ingest : List IngestJob) (query : List QueryJob) : String :=
  String.join (ingest.map fun job ↦
    line ["ingest ", job.id, " ", job.state.name, " ", job.operation.name, " ", job.object]) ++
  String.join (query.map fun job ↦
    line ["query  ", job.id, " ", job.state.name, " ", job.operation.name, " ",
      job.query.getD ""])

/-- List all jobs. The listings of both families are under way at the same time, and each goes to
its end, whatever the other one comes to. -/
def jobs (client : Client) (turns : List Bool) : Session Report := fun traffic ↦
  let bound := traffic.replies.length
  let both := Http.Process.join turns (client.listSteps IngestJob bound).run
    (client.listSteps QueryJob bound).run
  let ((ingest, query), traffic) := both.run traffic
  (do return { output := listing (← ingest) (← query) }, traffic)

/-- What there is to say about a job. -/
def statusReport (job : IngestJob) : Report where
  output :=
    line ["job ", job.id, " ", job.state.name, " (", toString job.recordsProcessed,
      " processed, ", toString job.recordsFailed, " failed)"] ++
      (match JobSnapshot.createdAt job with
        | some created => line ["  created ", created.describe]
        | none => "")

/-- Carry out a command, up to what there is to say about it. -/
def perform (client : Client) (surroundings : Surroundings) : Command → Session Report
  | .ingest object file more => ingest client surroundings object file more
  | .query soql => do
    return queryReport (← client.runQuery surroundings.clock { query := soql })
  | .jobs => jobs client surroundings.turns
  | .status id => do return statusReport (← Client.getJob IngestJob client id)
  | .abort id => do return { output := jobLine (← Client.abortJob IngestJob client id) }
  | .delete id => do
    client.deleteJob .ingest id
    return { output := line ["job ", id, " deleted"] }

/-- How the program ends: its exit status, and what it has written on standard output and standard
error. -/
structure Exit where
  status : Nat
  output : String
  errors : String
deriving DecidableEq, Repr

namespace Exit

def failing (output errors : String) : Exit :=
  { status := 1, output, errors }

/-- The end in the middle of what the program was doing, with the status that the runtime gives it
then. Standard error says why, in words that are the runtime's own. -/
def panicking (output reason : String) : Exit :=
  { status := 101, output, errors := line ["panicked: ", reason] }

/-- The end after a command was carried out. What there is to say is printed first; an empty text
needs no printing. -/
def ofReport (surroundings : Surroundings) : Except Failure Report → Exit
  | .ok { output, complaint } =>
    match if output.isEmpty then .ok () else surroundings.print output with
    | .error part => panicking part "failed printing to stdout"
    | .ok () =>
      match complaint with
      | none => { status := 0, output, errors := "" }
      | some complaint => failing output (line ["Error: ", complaint])
  | .error failure => failing "" (line ["Error: ", failure.message])

end Exit

/-- Run the program. Arguments are bytes, and all of them must be texts; they are only looked at
when there is a client to carry them out. -/
def run (surroundings : Surroundings) (arguments : List Octets) : StateM Http.Traffic Exit := do
  match arguments.mapM Utf8.decode? with
  | none => return .panicking "" "an argument is not valid Unicode"
  | some [] => return .failing "" usage
  | some words =>
    match ClientBuilder.build {} surroundings.environment with
    | .error failure =>
      return .failing ""
        (line ["Error: ", failure.message] ++ line ["Set SF_INSTANCE_URL and SF_ACCESS_TOKEN."])
    | .ok client =>
      match Command.parse? words with
      | none => return .failing "" usage
      | some command =>
        return .ofReport surroundings (← (perform client surroundings command).run)

end BulkJobs.Console
