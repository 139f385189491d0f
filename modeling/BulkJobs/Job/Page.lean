import BulkJobs.Json.Record

/-!
# Listing pages

A listing comes in pages. A page without further notice is the last one.
-/

set_option autoImplicit false
set_option relaxedAutoImplicit false

namespace BulkJobs

/-- A page of a listing, with its records decoded in some way; `next` says where the next page is.
-/
structure JobPage (α : Type) where
  done : Bool
  records : List α
  next : Option String
deriving DecidableEq, Repr

namespace JobPage

/-- The members of a page in JSON, each with what it is when it is missing. -/
def layout {α : Type} (decode : Json.Decoder α) : Json.Layout (JobPage α) :=
  Json.Layout.start JobPage.mk
    |>.field (.withDefault "done" true .boolean)
    |>.field (.withDefault "records" [] (.array decode))
    |>.field (.optional "nextRecordsUrl" .text)

def decode {α : Type} (decode : Json.Decoder α) : Json.Decoder (JobPage α) :=
  (layout decode).decoder "struct JobList"

end JobPage

end BulkJobs
