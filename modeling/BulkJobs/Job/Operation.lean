import BulkJobs.Json.Decode
import BulkJobs.Text.Blank

/-!
# Bulk operations

What a job does with its records. Two of the operations read records and belong to query jobs; the
others write records and belong to ingest jobs.
-/

set_option autoImplicit false
set_option relaxedAutoImplicit false

namespace BulkJobs

/-- What a job does with its records. -/
inductive Operation where
  | insert
  | update
  | upsert
  | delete
  | hardDelete
  | query
  | queryAll
deriving DecidableEq, Repr

namespace Operation

def all : List Operation :=
  [.insert, .update, .upsert, .delete, .hardDelete, .query, .queryAll]

/-- The name of an operation in JSON and in messages. -/
def name : Operation → String
  | .insert => "insert"
  | .update => "update"
  | .upsert => "upsert"
  | .delete => "delete"
  | .hardDelete => "hardDelete"
  | .query => "query"
  | .queryAll => "queryAll"

/-- Whether the operation reads records. -/
def isQuery : Operation → Bool
  | .query | .queryAll => true
  | _ => false

/-- Whether the operation writes records. -/
def isIngest (operation : Operation) : Bool :=
  !operation.isQuery

/-- The operation a person means by a name: blanks around it and the case of letters do not count.
-/
def ofName? (name : String) : Option Operation :=
  all.find? fun operation ↦ Text.sameIgnoringCase operation.name (Text.trim name)

def decode : Json.Decoder Operation :=
  .alternative (all.map fun operation ↦ (operation.name, operation))

end Operation

end BulkJobs
