import BulkJobs.Json.Value
import BulkJobs.Text.Ascii

/-!
# Writing JSON

The compact text of a value: no blanks, members in the order the object keeps them. In strings only
quotes, backslashes and control characters are escaped.
-/

set_option autoImplicit false
set_option relaxedAutoImplicit false

namespace BulkJobs.Json

/-- The digits of a decimal without trailing zeros. -/
def significantDigits (digits : Nat) : List Char :=
  match (Nat.toDigits 10 digits).reverse.dropWhile (· == '0') with
  | [] => ['0']
  | kept => kept.reverse

/-- A decimal in positional form, with at least one digit after the point, when the exponent of its
leading digit is between `-5` and `15`, and otherwise with an exponent that has a sign and at least
two digits. -/
def layOut (decimal : Nat × Int) : List Char :=
  let digits := significantDigits decimal.1
  let lead : Int := (Nat.toDigits 10 decimal.1).length - 1 + decimal.2
  if 0 ≤ lead && lead ≤ 15 then
    let whole := lead.toNat + 1
    let padded := digits ++ List.replicate (whole + 1 - digits.length) '0'
    padded.take whole ++ '.' :: padded.drop whole
  else if -5 ≤ lead && lead < 0 then
    ['0', '.'] ++ List.replicate ((-lead).toNat - 1) '0' ++ digits
  else
    let fraction := if digits.length == 1 then [] else '.' :: digits.drop 1
    let exponentSign := if lead < 0 then '-' else '+'
    digits.take 1 ++ fraction ++ 'e' :: exponentSign :: (Text.paddedDecimal 2 lead.natAbs).toList

/-- The text of a floating-point number: its shortest decimal. -/
def writeReal (x : Binary64) : List Char :=
  x.sign ++ if x.isZero then ['0', '.', '0'] else layOut x.shortest

def Number.write : Number → List Char
  | .natural n => Nat.toDigits 10 n
  | .negated n => '-' :: Nat.toDigits 10 n
  | .real x => writeReal x

/-- One character inside a JSON string, escaped where it has to be. -/
def escapeChar (c : Char) : List Char :=
  if c == '"' then ['\\', '"']
  else if c == '\\' then ['\\', '\\']
  else if c == '\n' then ['\\', 'n']
  else if c == '\r' then ['\\', 'r']
  else if c == '\t' then ['\\', 't']
  else if c.toNat == 0x08 then ['\\', 'b']
  else if c.toNat == 0x0C then ['\\', 'f']
  else if c.toNat < 0x20 then
    ['\\', 'u', '0', '0', Text.lowerHexDigit (c.toNat / 16), Text.lowerHexDigit (c.toNat % 16)]
  else [c]

def writeText (text : String) : List Char :=
  '"' :: text.toList.flatMap escapeChar ++ ['"']

mutual

/-- The characters of a value, without white space between its parts. -/
def write : Json → List Char
  | .null => "null".toList
  | .bool true => "true".toList
  | .bool false => "false".toList
  | .number n => n.write
  | .text t => writeText t
  | .list [] => ['[', ']']
  | .list (item :: items) => '[' :: item.write ++ writeItems items
  | .object [] => ['\x7b', '\x7d']
  | .object ((key, value) :: members) =>
    '\x7b' :: writeText key ++ ':' :: value.write ++ writeMembers members
termination_by structural value => value

/-- The items of an array after its first one, and the closing bracket. -/
def writeItems : List Json → List Char
  | [] => [']']
  | item :: items => ',' :: item.write ++ writeItems items
termination_by structural items => items

/-- The members of an object after its first one, and the closing brace. -/
def writeMembers : List (String × Json) → List Char
  | [] => ['\x7d']
  | (key, value) :: members =>
    ',' :: writeText key ++ ':' :: value.write ++ writeMembers members
termination_by structural members => members

end

/-- The compact text of a value, which is what is sent. -/
def compact (value : Json) : String :=
  .ofList value.write

end BulkJobs.Json
