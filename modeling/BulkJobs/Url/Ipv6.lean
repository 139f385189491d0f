import BulkJobs.Text.Ascii
import BulkJobs.Url.Basic

/-!
# IPv6 addresses

Eight pieces of up to four hexadecimal digits with colons between them. Once, two colons in a row
may stand for any number of zero pieces, and the last two pieces may be written as an IPv4 address.
-/

set_option autoImplicit false
set_option relaxedAutoImplicit false

namespace BulkJobs.Ipv6

/-- A piece of an address, in at most four hexadecimal digits. -/
def piece? (digits : List Char) : Option Nat :=
  if digits.isEmpty || digits.length > 4 then none
  else digits.foldl (fun total c ↦ do return (← total) * 16 + (← Text.hexValue? c)) (some 0)

/-- A byte in decimal, without leading zeros. -/
def byte? (digits : List Char) : Option Nat :=
  match digits with
  | '0' :: _ :: _ => none
  | digits => (Text.decimal? digits).filter (· ≤ 255)

/-- The two pieces of an IPv4 address. -/
def dotted? (field : List Char) : Option (List Nat) := do
  let [a, b, c, d] ← (Text.splitOn '.' field).mapM byte? | none
  return [a * 256 + b, c * 256 + d]

/-- The pieces in the fields between colons, after the pieces read so far. The result also says
before which piece the left-out zeros stand; two colons in a row count as one zero piece. -/
def pieces? (zeros : Option Nat) (before : List Nat) :
    List (List Char) → Option (Option Nat × List Nat)
  | [] => some (zeros, before)
  | [field] =>
    if field.isEmpty then if zeros == some before.length then some (zeros, before) else none
    else if before.length ≥ 8 then none
    else if field.contains '.' then
      if before.length > 6 then none else (dotted? field).map fun last ↦ (zeros, before ++ last)
    else (piece? field).map fun piece ↦ (zeros, before ++ [piece])
  | field :: fields =>
    if before.length ≥ 8 then none
    else if field.isEmpty then
      if zeros.isSome then none
      else pieces? (some (before.length + 1)) (before ++ [0]) fields
    else
      match piece? field with
      | some piece => pieces? zeros (before ++ [piece]) fields
      | none => none

/-- The eight pieces of an address, with zeros for the ones that are left out. -/
def parse (address : List Char) : Except UrlProblem (List Nat) :=
  let read := match Text.splitOn ':' address with
    | [] :: [] :: fields => pieces? (some 1) [0] fields
    | [] :: _ => none
    | fields => pieces? none [] fields
  match read with
  | some (some zeros, pieces) =>
    .ok (pieces.take zeros ++ List.replicate (8 - pieces.length) 0 ++ pieces.drop zeros)
  | some (none, pieces) => if pieces.length == 8 then .ok pieces else .error .invalidIpv6
  | none => .error .invalidIpv6

end BulkJobs.Ipv6
