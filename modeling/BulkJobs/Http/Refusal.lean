import BulkJobs.Http.Failure
import BulkJobs.Http.Redaction
import BulkJobs.Json.Record

/-!
# Refusals

A reply whose status is not a success is a refusal. The service usually describes it as an array of
error records, sometimes as a single one; anything else is kept as text and classified by status.
-/

set_option autoImplicit false
set_option relaxedAutoImplicit false

namespace BulkJobs.Http

/-- An error record of the service, whose fields have defaults where it leaves them out. -/
structure ErrorRecord where
  code : String
  detail : String
  fields : List String
deriving DecidableEq, Repr

namespace ErrorRecord

/-- The members of an error record in JSON. -/
def layout : Json.Layout ErrorRecord :=
  Json.Layout.start (fun code detail fields ↦ ErrorRecord.mk code detail (fields.getD []))
    |>.field { Json.Field.required "error_code" .text with aliases := ["errorCode"] }
    |>.field (.required "message" .text)
    |>.field { Json.Field.optional "fields" (.array .text) with inArray := none }

def decode : Json.Decoder ErrorRecord :=
  layout.decoder "struct SalesforceErrorResponse"

/-- The error record in the body of a refusal: the first one of an array of records, or a single
record. -/
def ofBody? (body : String) : Option ErrorRecord :=
  let source := Utf8.encode body
  match Json.decodeText (.array decode) source with
  | .ok (first :: _) => some first
  | _ => (Json.decodeText decode source).toOption

end ErrorRecord

/-- The failure that a refusal amounts to: one in the terms of the service if the body holds an
error record, with a message that is sanitized in any case. -/
def refusal (status : Nat) (body : String) : FailureKind :=
  if status == 429 then .rateLimited none
  else
    match ErrorRecord.ofBody? body with
    | some record =>
      .service status record.code (Redaction.sanitize record.detail) record.fields
    | none =>
      let detail := Redaction.sanitize body
      match status with
      | 401 => .authentication detail
      | 403 => .authorization detail
      | 404 => .notFound detail
      | status => .refused status detail

end BulkJobs.Http
