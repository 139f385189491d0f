/-!
# Job kinds

Ingest jobs write records and query jobs read them. The two families live under paths of their own.
-/

set_option autoImplicit false
set_option relaxedAutoImplicit false

namespace BulkJobs

/-- The family of a job: whether it writes records or reads them. -/
inductive JobKind where
  | ingest
  | query
deriving DecidableEq, Repr

namespace JobKind

/-- The path segment of the family, which is also its name. -/
def path : JobKind → String
  | .ingest => "ingest"
  | .query => "query"

/-- The value of `jobType` that keeps a listing to this family. -/
def listFilter : JobKind → String
  | .ingest => "V2Ingest"
  | .query => "V2Query"

end JobKind

end BulkJobs
