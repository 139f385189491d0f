import BulkJobs.Client.Watch
import BulkJobs.Job.Draft
import BulkJobs.Results.Outcome
import BulkJobs.Results.Pages

/-!
# Query jobs

A query job starts as soon as it is created. Its result comes in pages, each of which says where the
next one is.
-/

set_option autoImplicit false
set_option relaxedAutoImplicit false

namespace BulkJobs.Client

/-- Create a query job. A draft that `validate` finds something wrong with is not sent. -/
def createQueryJob (client : Client) (draft : QueryDraft) : Session QueryJob := do
  Http.Exchange.ofExcept draft.validate
  lift (client.org.postJson QueryJob.decode (client.kindUrl .query) draft.encode)

/-- The request for a page of the result of a job: CSV data, at a locator and of a size if they are
given. -/
def pageRequest (client : Client) (id : String) (locator : Option String) (limit : Option Nat) :
    Http.Request :=
  let request := (client.org.request .get (client.resourceUrl .query id "results")).acceptingCsv
  let located := match locator with
    | some locator => request.withQuery "locator" locator
    | none => request
  match limit with
  | some limit => located.withQuery "maxRecords" (toString limit)
  | none => located

/-- Fetch a page of the result of a job: the first one, or the one at a locator. -/
def queryResults (client : Client) (id : String) (locator : Option String) (limit : Option Nat) :
    Session ResultPage := do
  let response ← lift (client.org.execute (client.pageRequest id locator limit))
  let csv ← lift (Http.Exchange.ofExcept response.readText)
  return { csv, locator := response.locator? }

/-- The locator of the page after a page at a locator, if there is another one: the page names one,
and not the one that it was got with. -/
def nextLocator? (current : Option String) (page : ResultPage) : Option String :=
  page.locator.filter fun next ↦ current != some next

/-- Fetch the pages of a result from a locator on and join them to the pages joined so far. The
bound on the number of further pages is the number of replies that are still to come. -/
def followResults (client : Client) (id : String) :
    Nat → Option String → String → Session String
  | 0, locator, joined => do
    let page ← client.queryResults id locator none
    return appendPage joined page.csv
  | more + 1, locator, joined => do
    let page ← client.queryResults id locator none
    let joined := appendPage joined page.csv
    match nextLocator? locator page with
    | some next => followResults client id more (some next) joined
    | none => return joined

/-- Fetch the whole result of a job as one text with a single header, from page to page by
`followResults`. -/
def allQueryResults (client : Client) (id : String) : Session String := do
  let traffic ← get
  followResults client id traffic.replies.length none ""

/-- Create a query job, wait for it and fetch its result, if it was processed to its end. From the
waiting on, the snapshot that was got last says which job it is. -/
def runQuery (client : Client) (clock : Nat → Span) (draft : QueryDraft) :
    Session QueryOutcome := do
  let created ← client.createQueryJob draft
  let job ← waitForJob QueryJob client clock created.id
  if job.state.isSuccess then
    return { job, csv := some (← client.allQueryResults job.id) }
  else return { job, csv := none }

end BulkJobs.Client
