/-!
# ASCII letters and digits

Character classes of the network formats, and hexadecimal digits in both directions.
-/

set_option autoImplicit false
set_option relaxedAutoImplicit false

namespace BulkJobs.Text

def isAsciiLetter (c : Char) : Bool :=
  ('a' ≤ c && c ≤ 'z') || ('A' ≤ c && c ≤ 'Z')

def isAsciiDigit (c : Char) : Bool :=
  '0' ≤ c && c ≤ '9'

def isAsciiAlphanumeric (c : Char) : Bool :=
  isAsciiLetter c || isAsciiDigit c

/-- The lower-case form of an ASCII letter; other characters stay as they are. -/
def lowerAscii (c : Char) : Char :=
  if 'A' ≤ c && c ≤ 'Z' then Char.ofNat (c.toNat + 32) else c

/-- The text with its ASCII letters in lower case. -/
def lowerAsciiText (text : String) : String :=
  .ofList (text.toList.map lowerAscii)

/-- Whether two texts agree up to the case of ASCII letters. -/
def sameIgnoringCase (left right : String) : Bool :=
  lowerAsciiText left == lowerAsciiText right

/-- The value of a decimal digit, if the character is one. -/
def decimalValue? (c : Char) : Option Nat :=
  if isAsciiDigit c then some (c.toNat - 48) else none

/-- The value of a hexadecimal digit of either case, if the character is one. -/
def hexValue? (c : Char) : Option Nat :=
  if isAsciiDigit c then some (c.toNat - 48)
  else if 'a' ≤ c && c ≤ 'f' then some (c.toNat - 87)
  else if 'A' ≤ c && c ≤ 'F' then some (c.toNat - 55)
  else none

/-- The hexadecimal digit of a value below 16, a letter of lower case from 10 on. -/
def lowerHexDigit (n : Nat) : Char :=
  if n < 10 then Char.ofNat (48 + n) else Char.ofNat (87 + n)

/-- The hexadecimal digit of a value below 16, a letter of upper case from 10 on. -/
def upperHexDigit (n : Nat) : Char :=
  if n < 10 then Char.ofNat (48 + n) else Char.ofNat (55 + n)

/-- The number that a run of decimal digits denotes, if it has a digit and nothing else. -/
def decimal? (digits : List Char) : Option Nat :=
  if digits.isEmpty then none
  else digits.foldl (fun total c ↦ do return (← total) * 10 + (← decimalValue? c)) (some 0)

/-- Lower-case hexadecimal digits of a number, without leading zeros. -/
def lowerHex (n : Nat) : List Char :=
  Nat.toDigits 16 n

/-- The digits of a number, padded on the left with zeros to a width. -/
def paddedDecimal (width n : Nat) : String :=
  let digits := Nat.toDigits 10 n
  .ofList (List.replicate (width - digits.length) '0' ++ digits)

/-- The parts of a text between the occurrences of a separator; there is always at least one. -/
def splitOn (separator : Char) : List Char → List (List Char)
  | [] => [[]]
  | c :: rest =>
    if c == separator then [] :: splitOn separator rest
    else match splitOn separator rest with
      | [] => [[c]]
      | part :: parts => (c :: part) :: parts

/-- Whether all characters of a text have a property is found out by going through the text. -/
instance decidableForallMem (property : Char → Prop) [DecidablePred property] (text : List Char) :
    Decidable (∀ c ∈ text, property c) :=
  List.decidableBAll property text

end BulkJobs.Text
