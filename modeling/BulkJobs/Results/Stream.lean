import BulkJobs.Http.Response
import BulkJobs.Results.Body

/-!
# Result streams

The body of a result arrives chunk by chunk, cut wherever the network cuts it. A body that breaks
off ends its stream with a failure. A stream is read to its end before it is taken as bytes, as text
or as a table.
-/

set_option autoImplicit false
set_option relaxedAutoImplicit false

namespace BulkJobs

/-- How bodies arrive: in which chunks, and how much comes of a body that breaks off. -/
structure Cutting where
  chunks : Http.Response → List Octets
  begins : ∀ response, (chunks response).flatten <+: response.body
  whole : ∀ response, response.broken = false → (chunks response).flatten = response.body

/-- A result that arrives chunk by chunk, and perhaps ends with a failure. -/
structure ResultStream where
  items : List (Except Failure Octets)

namespace ResultStream

/-- The stream of the body of a response, cut as asked for. -/
def ofResponse (cutting : Cutting) (response : Http.Response) : ResultStream where
  items :=
    let arrived := (cutting.chunks response).map .ok
    if response.broken then
      arrived ++ [.error (.ofHttp (.dueTo (.json "error decoding response body")))]
    else arrived

/-- All chunks of a stream, unless it ends with a failure. -/
def collect (stream : ResultStream) : Except Failure (List Octets) :=
  stream.items.mapM id

/-- The bytes of a stream. A single chunk is taken as it is. -/
def bytes (stream : ResultStream) : Except Failure Octets := do
  match ← stream.collect with
  | [chunk] => return chunk
  | chunks => return chunks.flatten

/-- A stream as text, if its bytes are valid UTF-8. -/
def text (stream : ResultStream) : Except Failure String := do
  ResultBody.asText (← stream.bytes)

/-- A stream as a table, whose columns the delimiter separates. -/
def set (delimiter : ColumnDelimiter) (stream : ResultStream) : Except Failure ResultSet := do
  ResultBody.asSet delimiter (← stream.bytes)

end ResultStream

end BulkJobs
