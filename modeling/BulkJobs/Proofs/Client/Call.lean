import BulkJobs.Proofs.Client.Sending

/-!
# Calls of a client

A `Call` is one operation of a client with its arguments; `Call.run` carries it out. Whatever the
replies are, a call only sends requests for the URLs of its paths (`Call.paths`), so what holds of
every message that such a request becomes holds of every message of the call (`Call.sends`). The
operations on one job have the paths of that job alone (`Call.paths_of_job`).
-/

set_option autoImplicit false
set_option relaxedAutoImplicit false

namespace BulkJobs

open JobSnapshot (kind)
open Http (Exchange Message)
open Http.Exchange (Sends)

/-- A part of a job that has a URL of its own. -/
inductive JobPart where
  | batches
  | artifact (which : Artifact)
  | results
deriving DecidableEq, Repr

/-- The path segment of a part, behind the id of its job. -/
def JobPart.path : JobPart → String
  | .batches => "batches"
  | .artifact which => which.path
  | .results => "results"

/-- A job, or a part of one: what the arguments of an operation can name. -/
structure JobTarget where
  kind : JobKind
  id : String
  part : Option JobPart
deriving DecidableEq, Repr

def JobTarget.url (client : Client) (target : JobTarget) : String :=
  match target.part with
  | none => client.jobUrl target.kind target.id
  | some part => client.resourceUrl target.kind target.id part.path

/-- An operation of a client with its arguments, and the type of what it yields. Everything a client
can be asked for is one of these. -/
inductive Call : Type → Type 1 where
  | createIngest (draft : IngestDraft) : Call IngestJob
  | createQuery (draft : QueryDraft) : Call QueryJob
  | get (α : Type) [JobSnapshot α] (id : String) : Call α
  | abort (α : Type) [JobSnapshot α] (id : String) : Call α
  | delete (kind : JobKind) (id : String) : Call Unit
  | list (α : Type) [JobSnapshot α] : Call (List α)
  | wait (α : Type) [JobSnapshot α] (id : String) : Call α
  | watch (α : Type) [JobSnapshot α] (id : String) (room : Option Nat) : Call (Watched α)
  | upload (id : String) (data : Octets) : Call Unit
  | close (id : String) : Call IngestJob
  | fetchArtifact (artifact : Artifact) (id : String) : Call Octets
  | fetchSet (delimiter : ColumnDelimiter) (artifact : Artifact) (id : String) : Call ResultSet
  | queryResults (id : String) (locator : Option String) (limit : Option Nat) : Call ResultPage
  | allQueryResults (id : String) : Call String
  | runIngest (draft : IngestDraft) (data : Octets) : Call IngestOutcome
  | runQuery (draft : QueryDraft) : Call QueryOutcome
  | getJson {α : Type} (decode : Json.Decoder α) (path : String) : Call α
  | postJson {α : Type} (decode : Json.Decoder α) (path : String) (body : Json) : Call α
  | patchJson {α : Type} (decode : Json.Decoder α) (path : String) (body : Json) : Call α
  | deleteAt (path : String) : Call Unit

namespace Call

/-- Carry out a call. The clock is only for those that wait: it gives the time passed at each
look. -/
def run (client : Client) (clock : Nat → Span) : {α : Type} → Call α → Session α
  | _, createIngest draft => client.createIngestJob draft
  | _, createQuery draft => client.createQueryJob draft
  | _, get α id => Client.getJob α client id
  | _, abort α id => Client.abortJob α client id
  | _, delete kind id => client.deleteJob kind id
  | _, list α => Client.listJobs α client
  | _, wait α id => Client.waitForJob α client clock id
  | _, watch α id room => Client.watchJob α client clock id room
  | _, upload id data => client.upload id data
  | _, close id => client.closeJob id
  | _, fetchArtifact artifact id => client.fetchArtifact artifact id
  | _, fetchSet delimiter artifact id => client.fetchSet delimiter artifact id
  | _, queryResults id locator limit => client.queryResults id locator limit
  | _, allQueryResults id => client.allQueryResults id
  | _, runIngest draft data => client.runIngest clock draft data
  | _, runQuery draft => client.runQuery clock draft
  | _, getJson decode path => Client.lift (client.org.getJson decode path)
  | _, postJson decode path body => Client.lift (client.org.postJson decode path body)
  | _, patchJson decode path body => Client.lift (client.org.patchJson decode path body)
  | _, deleteAt path => Client.lift (client.org.delete path)

/-- What an operation is on, if its arguments name a job, or a part of one. -/
def target? : {α : Type} → Call α → Option JobTarget
  | _, get α id => some ⟨kind α, id, none⟩
  | _, abort α id => some ⟨kind α, id, none⟩
  | _, delete kind id => some ⟨kind, id, none⟩
  | _, wait α id => some ⟨kind α, id, none⟩
  | _, watch α id _ => some ⟨kind α, id, none⟩
  | _, upload id _ => some ⟨.ingest, id, some .batches⟩
  | _, close id => some ⟨.ingest, id, none⟩
  | _, fetchArtifact artifact id => some ⟨.ingest, id, some (.artifact artifact)⟩
  | _, fetchSet _ artifact id => some ⟨.ingest, id, some (.artifact artifact)⟩
  | _, queryResults id _ _ => some ⟨.query, id, some .results⟩
  | _, allQueryResults id => some ⟨.query, id, some .results⟩
  | _, _ => none

/-- The paths a call may ask for: the one of its target, if it has a target, and otherwise the one
of the family, of a page, or any path that the caller names. -/
def MayAsk (client : Client) {α : Type} (call : Call α) (path : String) : Prop :=
  ∀ target ∈ call.target?, path = target.url client

end Call

namespace Call

open Client

variable {α : Type} {client : Client} {P : Message → Prop}

/-- A call sends only what the paths it may ask for carry: a property of all messages that are built
for these paths (`hpaths`) is one of all messages of the call. -/
theorem sends (call : Call α) (clock : Nat → Span)
    (hpaths : ∀ path, call.MayAsk client path → client.Carries P path) :
    Sends P (call.run client clock) := by
  have htarget : ∀ target, call.target? = some target → client.Carries P (target.url client) := by
    intro target htarget
    refine hpaths _ fun other hother ↦ ?_
    rw [htarget] at hother
    cases hother
    rfl
  have hany : call.target? = none → ∀ path, client.Carries P path := by
    intro hnone path
    refine hpaths path fun other hother ↦ ?_
    rw [hnone] at hother
    cases hother
  cases call with
  | createIngest draft => exact sends_createIngestJob draft (hany rfl _)
  | createQuery draft => exact sends_createQueryJob draft (hany rfl _)
  | get α id => exact sends_getJob (htarget ⟨kind α, id, none⟩ rfl)
  | abort α id => exact sends_abortJob (htarget ⟨kind α, id, none⟩ rfl)
  | delete kind id => exact sends_deleteJob (htarget ⟨kind, id, none⟩ rfl)
  | list α => exact sends_listJobs (hany rfl)
  | wait α id => exact sends_waitForJob clock (htarget ⟨kind α, id, none⟩ rfl)
  | watch α id room => exact sends_watchJob clock room (htarget ⟨kind α, id, none⟩ rfl)
  | upload id data => exact sends_upload data (htarget ⟨.ingest, id, some .batches⟩ rfl)
  | close id => exact sends_closeJob (htarget ⟨.ingest, id, none⟩ rfl)
  | fetchArtifact artifact id =>
    exact sends_fetchArtifact artifact (htarget ⟨.ingest, id, some (.artifact artifact)⟩ rfl)
  | fetchSet delimiter artifact id =>
    exact sends_fetchSet delimiter artifact (htarget ⟨.ingest, id, some (.artifact artifact)⟩ rfl)
  | queryResults id locator limit =>
    exact sends_queryResults locator limit (htarget ⟨.query, id, some .results⟩ rfl)
  | allQueryResults id => exact sends_allQueryResults (htarget ⟨.query, id, some .results⟩ rfl)
  | runIngest draft data => exact sends_runIngest (fun _ ↦ hany rfl _) clock draft data
  | runQuery draft => exact sends_runQuery (fun _ ↦ hany rfl _) clock draft
  | getJson decode path => exact sends_getJson (hany rfl path) decode
  | postJson decode path body => exact sends_postJson (hany rfl path) decode body
  | patchJson decode path body => exact sends_patchJson (hany rfl path) decode body
  | deleteAt path => exact sends_delete (hany rfl path)

end Call

end BulkJobs
