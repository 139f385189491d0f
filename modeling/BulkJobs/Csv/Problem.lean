/-!
# What is wrong with CSV data

Every record has as many fields as the first one, and every field is UTF-8. A record is located by
its number, with the header as number zero, and by the line and the byte where the record before it
ended.
-/

set_option autoImplicit false
set_option relaxedAutoImplicit false

namespace BulkJobs.Csv

/-- Where a record starts: its byte, its line, and its number. -/
structure Place where
  record : Nat
  line : Nat
  byte : Nat
deriving DecidableEq, Repr

/-- What is wrong with CSV data: records of unequal lengths, or a field that is no text. -/
inductive Problem where
  | unequalLengths (place : Place) (found expected : Nat)
  /-- A field that is not UTF-8, and how many of its bytes are. -/
  | invalidUtf8 (place : Place) (field validUpTo : Nat)
deriving DecidableEq, Repr

/-- The message of a problem. -/
def Problem.message : Problem → String
  | .unequalLengths place found expected =>
    "CSV error: record " ++ toString place.record ++ " (line: " ++ toString place.line ++
      ", byte: " ++ toString place.byte ++ "): found record with " ++ toString found ++
      " fields, but the previous record has " ++ toString expected ++ " fields"
  | .invalidUtf8 place field validUpTo =>
    "CSV parse error: record " ++ toString place.record ++ " (line " ++ toString place.line ++
      ", field: " ++ toString field ++ ", byte: " ++ toString place.byte ++
      "): invalid utf-8: invalid UTF-8 in field " ++ toString field ++ " near byte index " ++
      toString validUpTo

end BulkJobs.Csv
