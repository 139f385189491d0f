import BulkJobs.Csv.Scan
import BulkJobs.Job.Format

/-!
# Result sets

CSV data as a table: the names of the columns and the rows. All rows are as wide as the header.
-/

set_option autoImplicit false
set_option relaxedAutoImplicit false

namespace BulkJobs

/-- A table of texts with named columns; `parse` gives only tables whose rows are as wide as the
header. -/
structure ResultSet where
  headers : List String
  rows : List (List String)
deriving DecidableEq, Repr

namespace ResultSet

/-- The fields of a record as texts, from the field with the given number on, or the problem of the
first field that is not UTF-8. -/
def decodeFields (place : Csv.Place) : Nat → List Octets → Except Csv.Problem (List String)
  | _, [] => .ok []
  | index, field :: fields =>
    match Utf8.decode? field with
    | some text => (decodeFields place (index + 1) fields).map (text :: ·)
    | none => .error (.invalidUtf8 place index (Utf8.validPrefixLength field))

/-- The rows in the records from the one with the given number on, each of which must have the given
width. -/
def decodeRows (width : Nat) : Nat → List Csv.Record → Except Csv.Problem (List (List String))
  | _, [] => .ok []
  | number, record :: records => do
    let place : Csv.Place := ⟨number, record.start.line, record.start.byte⟩
    if record.fields.length ≠ width then
      throw (.unequalLengths place record.fields.length width)
    let row ← decodeFields place 0 record.fields
    let rows ← decodeRows width (number + 1) records
    return row :: rows

/-- The table that CSV data makes; without any record it has no columns. -/
def parse (data : Octets) (delimiter : ColumnDelimiter) : Except Csv.Problem ResultSet :=
  match Csv.scan delimiter.byte data with
  | [] => .ok { headers := [], rows := [] }
  | header :: records => do
    let headers ← decodeFields ⟨0, header.start.line, header.start.byte⟩ 0 header.fields
    let rows ← decodeRows header.fields.length 1 records
    return { headers, rows }

/-- The number of rows. -/
def rowCount (set : ResultSet) : Nat :=
  set.rows.length

/-- Whether there are columns but no rows. -/
def isHeaderOnly (set : ResultSet) : Bool :=
  !set.headers.isEmpty && set.rows.isEmpty

/-- The number of the first column with a name, if there is one. -/
def columnIndex? (set : ResultSet) (name : String) : Option Nat :=
  set.headers.findIdx? (· == name)

/-- The values of the first column with a name, empty where a row is too short. -/
def column? (set : ResultSet) (name : String) : Option (List String) :=
  (set.columnIndex? name).map fun index ↦ set.rows.map fun row ↦ row.getD index ""

/-- The value of a column in a row, if there are such a column and such a row. -/
def get? (set : ResultSet) (row : Nat) (name : String) : Option String := do
  let index ← set.columnIndex? name
  let values ← set.rows[row]?
  values[index]?

end ResultSet

end BulkJobs
