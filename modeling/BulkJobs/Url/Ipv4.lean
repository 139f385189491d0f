import BulkJobs.Text.Ascii
import BulkJobs.Url.Basic

/-!
# IPv4 addresses

A host that ends in a number is an IPv4 address or nothing. Parts may be written in decimal, in
octal after a zero, or in hexadecimal after `0x`; the last part fills all the bytes that are left.
-/

set_option autoImplicit false
set_option relaxedAutoImplicit false

namespace BulkJobs.Ipv4

/-- The number written in a base after its mark, zero if there are no digits. -/
def ofDigits? (base : Nat) (digits : List Char) : Option Nat :=
  digits.foldl
    (fun total c ↦ do
      let digit ← Text.hexValue? c
      if digit < base then return (← total) * base + digit else none)
    (some 0)

/-- The number that a part denotes: in the base that its mark says, octal or hexadecimal, and in
decimal without a mark. -/
def number? : List Char → Option Nat
  | [] => none
  | '0' :: 'x' :: digits | '0' :: 'X' :: digits => ofDigits? 16 digits
  | '0' :: c :: digits => ofDigits? 8 (c :: digits)
  | digits => ofDigits? 10 digits

/-- The parts of a host between its dots, without an empty last one. -/
def parts (host : List Char) : List (List Char) :=
  let split := Text.splitOn '.' host
  if split.length > 1 && split.getLast? == some [] then split.dropLast else split

/-- Whether the last part of a host that is not empty is a number. -/
def endsInNumber (host : List Char) : Bool :=
  match (parts host).getLast? with
  | some last => (!last.isEmpty && last.all Text.isAsciiDigit) || (number? last).isSome
  | none => false

/-- The address made of the numbers of its parts: each but the last is a byte, and the last one
fills the rest. -/
def ofNumbers? (numbers : List Nat) : Option Nat :=
  match numbers.reverse with
  | [] => none
  | last :: leading =>
    let leading := leading.reverse
    let rest := Nat.pow 256 (4 - leading.length)
    if leading.length > 3 || leading.any (· > 255) || last ≥ rest then none
    else some (leading.foldl (fun total n ↦ total * 256 + n) 0 * rest + last)

/-- The address that a host denotes, from the numbers of its parts. -/
def parse (host : List Char) : Except UrlProblem Nat :=
  match (parts host).mapM number? with
  | some numbers =>
    match ofNumbers? numbers with
    | some address => .ok address
    | none => .error .invalidIpv4
  | none => .error .invalidIpv4

end BulkJobs.Ipv4
