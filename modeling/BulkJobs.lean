import BulkJobs.Main
import BulkJobs.Proofs.Text.Ends
import BulkJobs.Proofs.Text.Coding
import BulkJobs.Proofs.Url.Domain
import BulkJobs.Proofs.Url.Authority
import BulkJobs.Proofs.Http.Preparing
import BulkJobs.Proofs.Http.Process
import BulkJobs.Proofs.Http.Exchange
import BulkJobs.Proofs.Http.Carrying
import BulkJobs.Proofs.Http.Delivery
import BulkJobs.Proofs.Http.Sending
import BulkJobs.Proofs.Org.Origin
import BulkJobs.Proofs.Client.Call
import BulkJobs.Proofs.Client.Confinement
import BulkJobs.Proofs.Org.Plain
import BulkJobs.Proofs.Client.Addressing
import BulkJobs.Proofs.Client.IngestAct
import BulkJobs.Proofs.Client.Lifecycle
import BulkJobs.Proofs.Client.IngestRun
import BulkJobs.Proofs.Org.Length
import BulkJobs.Proofs.Client.Cleanup
import BulkJobs.Proofs.Csv.Written
import BulkJobs.Proofs.Results.Joining
import BulkJobs.Proofs.Client.Watching
import BulkJobs.Proofs.Http.Receiving
import BulkJobs.Proofs.Client.Backing
import BulkJobs.Proofs.Http.Redaction
import BulkJobs.Proofs.Client.Secrecy
import BulkJobs.Proofs.Text.Form
import BulkJobs.Proofs.Org.Reaching
import BulkJobs.Proofs.Client.Paging
import BulkJobs.Proofs.Client.Serving
import BulkJobs.Proofs.Client.Listing
import BulkJobs.Proofs.Client.Relisting
import BulkJobs.Proofs.Client.ResultPages
import BulkJobs.Proofs.Client.Relocating
import BulkJobs.Proofs.Client.Abort
import BulkJobs.Proofs.Client.Deadline
import BulkJobs.Proofs.Client.Passing
import BulkJobs.Proofs.Client.WatchTask
import BulkJobs.Proofs.Client.Hearing
import BulkJobs.Proofs.Http.Likeness
import BulkJobs.Proofs.Client.Blindness
import BulkJobs.Proofs.Text.Reading
import BulkJobs.Proofs.Client.ResultTexts
import BulkJobs.Proofs.Client.QueryRun
import BulkJobs.Proofs.Client.ResultDelimiter
import BulkJobs.Proofs.Client.JobKeeping
import BulkJobs.Proofs.Json.Token
import BulkJobs.Proofs.Json.Spelling
import BulkJobs.Proofs.Json.Record
import BulkJobs.Proofs.Json.Value
import BulkJobs.Proofs.Job.Snapshot
import BulkJobs.Proofs.Job.Rearranging
import BulkJobs.Proofs.Job.Page
import BulkJobs.Proofs.Http.Sanitizing
import BulkJobs.Proofs.Console.Performing
import BulkJobs.Proofs.Console.Exit
import BulkJobs.Proofs.Results.Rectangle
import BulkJobs.Proofs.Time.Calendar
import BulkJobs.Proofs.Time.Timestamp
import BulkJobs.Proofs.Http.Headers
import BulkJobs.Proofs.Http.Setters
import BulkJobs.Proofs.Json.Written
import BulkJobs.Proofs.Client.Creation
import BulkJobs.Proofs.Outcome
import BulkJobs.Proofs.Json.Decoding
import BulkJobs.Proofs.Url.Segment
import BulkJobs.Proofs.Http.ErrorRecord
import BulkJobs.Proofs.Credentials
import BulkJobs.Proofs.Client.Building
