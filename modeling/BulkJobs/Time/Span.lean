import BulkJobs.Text.Ascii

/-!
# Spans of time

A span is a whole number of nanoseconds. It is shown in the largest unit that leaves a whole part,
without trailing zeros: `2s`, `250ms`, `1.5s`, `0ns`.
-/

set_option autoImplicit false
set_option relaxedAutoImplicit false

namespace BulkJobs

/-- A length of time, in nanoseconds. -/
structure Span where
  nanoseconds : Nat
deriving DecidableEq, Repr, Inhabited

namespace Span

def ofMilliseconds (n : Nat) : Span :=
  ⟨n * 1000000⟩

def ofSeconds (n : Nat) : Span :=
  ⟨n * 1000000000⟩

/-- The whole milliseconds of a span. -/
def milliseconds (span : Span) : Nat :=
  span.nanoseconds / 1000000

/-- The whole seconds of a span. -/
def seconds (span : Span) : Nat :=
  span.nanoseconds / 1000000000

instance : Add Span where
  add a b := ⟨a.nanoseconds + b.nanoseconds⟩

/-- A quotient by a power of ten as a decimal without trailing zeros. -/
def decimal (n places : Nat) : List Char :=
  let whole := Nat.toDigits 10 (n / Nat.pow 10 places)
  let part := Nat.toDigits 10 (n % Nat.pow 10 places)
  let padded := List.replicate (places - part.length) '0' ++ part
  match (padded.reverse.dropWhile (· == '0')).reverse with
  | [] => whole
  | fraction => whole ++ '.' :: fraction

/-- The span in the largest unit that leaves a whole part. -/
def describe (span : Span) : String :=
  let n := span.nanoseconds
  if 1000000000 ≤ n then .ofList (decimal n 9 ++ ['s'])
  else if 1000000 ≤ n then .ofList (decimal n 6 ++ ['m', 's'])
  else if 1000 ≤ n then .ofList (decimal n 3 ++ ['µ', 's'])
  else .ofList (decimal n 0 ++ ['n', 's'])

end Span

end BulkJobs
