import BulkJobs.Client.Ingest
import BulkJobs.Results.Stream

/-!
# Artifacts as streams
-/

set_option autoImplicit false
set_option relaxedAutoImplicit false

namespace BulkJobs.Client

/-- Fetch an artifact as a stream of the chunks that its body arrives in. -/
def fetchStream (client : Client) (cutting : Cutting) (artifact : Artifact) (id : String) :
    Session ResultStream := do
  let request := client.org.request .get (client.resourceUrl .ingest id artifact.path)
  let response ← lift (client.org.execute request.acceptingCsv)
  return .ofResponse cutting response

/-- Fetch an artifact as a stream and read it as text. -/
def fetchText (client : Client) (cutting : Cutting) (artifact : Artifact) (id : String) :
    Session String := do
  let stream ← client.fetchStream cutting artifact id
  Http.Exchange.ofExcept stream.text

end BulkJobs.Client
