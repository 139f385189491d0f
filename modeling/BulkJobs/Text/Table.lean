import BulkJobs.Text.Ascii

/-!
# Tables of code points

The data of a character property is kept as text. A comma ends a row, a blank parts the numbers of a
row, and the numbers are hexadecimal. What the numbers of a row mean is up to the table; two forms
are common: rows that name a character or a range, and rows that give a range a value.
-/

set_option autoImplicit false
set_option relaxedAutoImplicit false

namespace BulkJobs.Text.Table

/-- The number that a run of hexadecimal digits denotes. -/
def hexNumber (digits : List Char) : Nat :=
  (digits.filterMap hexValue?).foldl (fun total digit ↦ total * 16 + digit) 0

/-- The rows of the lines of a table. -/
def rows (lines : List String) : List (List Nat) :=
  lines.flatMap fun line ↦ (splitOn ',' line.toList).map fun row ↦ (splitOn ' ' row).map hexNumber

/-- Whether a row is the character or holds it between its two ends. -/
def rowCovers (n : Nat) : List Nat → Bool
  | [single] => n == single
  | [first, last] => first ≤ n && n ≤ last
  | _ => false

/-- Whether a table of characters and ranges covers a character. -/
def covers (table : List (List Nat)) (c : Char) : Bool :=
  table.any (rowCovers c.toNat)

/-- The value that a table of ranges with a value gives to a character. -/
def value? (table : List (List Nat)) (c : Char) : Option Nat :=
  table.findSome? fun
    | [first, last, value] => if first ≤ c.toNat && c.toNat ≤ last then some value else none
    | _ => none

end BulkJobs.Text.Table
