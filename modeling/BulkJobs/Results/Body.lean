import BulkJobs.Failure
import BulkJobs.Results.ResultSet

/-!
# Result bodies

The body of a result can be taken as bytes, as text, which it has to be for that, or as a table.
-/

set_option autoImplicit false
set_option relaxedAutoImplicit false

namespace BulkJobs.ResultBody

/-- A body as text, if it is valid UTF-8. -/
def asText (body : Octets) : Except Failure String :=
  match Utf8.decode? body with
  | some text => .ok text
  | none => .error { kind := .other "result body is not UTF-8", caused := true }

/-- A body as a table, whose columns the delimiter separates. -/
def asSet (delimiter : ColumnDelimiter) (body : Octets) : Except Failure ResultSet :=
  (ResultSet.parse body delimiter).mapError Failure.ofCsv

end BulkJobs.ResultBody
