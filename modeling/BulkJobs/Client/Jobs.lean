import BulkJobs.Client.Basic
import BulkJobs.Job.Page
import BulkJobs.Job.Snapshot

/-!
# Operations on jobs of both families
-/

set_option autoImplicit false
set_option relaxedAutoImplicit false

namespace BulkJobs.Client

open JobSnapshot (kind)

/-- The request for a change of state in JSON. -/
def stateChange (state : JobState) : Json :=
  .object [("state", .text state.name)]

/-- Fetch the current snapshot of a job of the kind that is asked for. -/
def getJob (α : Type) [JobSnapshot α] (client : Client) (id : String) : Session α :=
  lift (client.org.getJson JobSnapshot.decode (client.jobUrl (kind α) id))

/-- Ask for a job to be aborted, and nothing more; the answer is its snapshot. -/
def requestAbort (α : Type) [JobSnapshot α] (client : Client) (id : String) : Session α :=
  lift (client.org.patchJson JobSnapshot.decode (client.jobUrl (kind α) id) (stateChange .aborted))

/-- Abort a job. When the service refuses with a status that says so, the job may have been aborted
before: then one look at it decides, and otherwise the refusal counts. -/
def abortJob (α : Type) [JobSnapshot α] (client : Client) (id : String) : Session α := do
  match ← (requestAbort α client id).attempt with
  | .ok job => return job
  | .error failure =>
    if failure.status? == some 400 || failure.status? == some 409 then
      match ← (getJob α client id).attempt with
      | .ok current =>
        if JobSnapshot.state current == .aborted then return current else throw failure
      | .error _ => throw failure
    else throw failure

/-- Delete a job. What the reply holds does not matter. -/
def deleteJob (client : Client) (kind : JobKind) (id : String) : Session Unit :=
  lift (client.org.delete (client.jobUrl kind id))

/-! ## Listings -/

/-- The jobs among the records of a page; records of other shapes are skipped. -/
def recognized (α : Type) [JobSnapshot α] (page : JobPage Json) : List α :=
  page.records.filterMap fun record ↦
    (Json.decodeValue JobSnapshot.decode record).toOption

/-- The decoder of a page whose records are kept as they are. -/
def pageDecoder : Json.Decoder (JobPage Json) :=
  JobPage.decode Json.Decoder.anything

/-- The URL of the page after a page at a URL, if there is another one: the page names it, does not
say that it is the last one, and names another URL than its own. -/
def nextUrl? (client : Client) (current : String) (page : JobPage Json) : Option String :=
  if page.done then none
  else (page.next.map client.org.url).filter (· != current)

/-- The jobs on a page and on those after it, whatever the way to fetch the page at a URL. The bound
on the number of further pages is a number of replies that are to come: when they are used up, the
next fetch fails. -/
def followPages (α : Type) [JobSnapshot α] {m : Type → Type} [Monad m] (client : Client)
    (fetch : String → m (JobPage Json)) : Nat → String → JobPage Json → m (List α)
  | 0, current, page =>
    match client.nextUrl? current page with
    | none => return recognized α page
    | some next => do
      let following ← fetch next
      return recognized α page ++ recognized α following
  | more + 1, current, page =>
    match client.nextUrl? current page with
    | none => return recognized α page
    | some next => do
      let following ← fetch next
      return recognized α page ++ (← followPages α client fetch more next following)

/-- The request for the first page of a listing, with the type of job that is asked for as a
parameter. -/
def listingRequest (client : Client) (kind : JobKind) : Http.Request :=
  (client.org.request .get (client.kindUrl kind)).withQuery "jobType" kind.listFilter

/-- All jobs of a family, from page to page by `followPages`; a page is fetched with all that its
redirects lead to before the next one is asked for. -/
def listJobs (α : Type) [JobSnapshot α] (client : Client) : Session (List α) := do
  let traffic ← get
  let first ← lift (Http.executeJson client.org.http pageDecoder (client.listingRequest (kind α)))
  followPages α client (fun url ↦ lift (client.org.getJson pageDecoder url)) traffic.replies.length
    (client.kindUrl (kind α)) first

/-- The page that a request asks for, one message at a time: a failure to build the request comes
without any. -/
def askPage (client : Client) (request : Http.Request) : Steps (JobPage Json) :=
  match request.prepare client.org.http with
  | .error failure => throw (.ofHttp failure)
  | .ok message => ExceptT.mk do
    let delivery ← Http.Process.carry Http.redirectLimit message
    let page := (delivery.arrival.bind Http.Response.accept).bind (·.readJson pageDecoder)
    return page.mapError Failure.ofHttp

/-- All jobs of a family, one message at a time, so that another computation can go on in between.
The bound is the number of replies that are to come. -/
def listSteps (α : Type) [JobSnapshot α] (client : Client) (bound : Nat) : Steps (List α) := do
  let first ← client.askPage (client.listingRequest (kind α))
  followPages α client (fun url ↦ client.askPage (client.org.request .get url)) bound
    (client.kindUrl (kind α)) first

end BulkJobs.Client
