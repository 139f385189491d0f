import BulkJobs.Json.Tree
import BulkJobs.Text.Ascii

/-!
# JSON strings and numbers

Readers of the two kinds of token that carry content. Each gives what the token denotes, if
anything, and the bytes after it, and fails on bytes that do not form such a token.
-/

set_option autoImplicit false
set_option relaxedAutoImplicit false

namespace BulkJobs.Json

def isSpace (b : UInt8) : Bool :=
  b == 0x20 || b == 0x0A || b == 0x0D || b == 0x09

/-- The input from its first byte that is not white space. -/
def skipSpace (input : Octets) : Octets :=
  input.dropWhile isSpace

/-- Whether a byte is a decimal digit. -/
def isDigit (b : UInt8) : Bool :=
  0x30 ≤ b && b ≤ 0x39

/-! ## Strings -/

/-- A part of a string: a byte, or the code unit of a `\u` escape. -/
inductive StringPart where
  | byte (b : UInt8)
  | unit (u : Nat)

/-- The byte that a one-letter escape denotes, if the letter is one of an escape. -/
def escapedByte? (letter : UInt8) : Option UInt8 :=
  match Char.ofNat letter.toNat with
  | '"' => some 0x22
  | '\\' => some 0x5C
  | '/' => some 0x2F
  | 'b' => some 0x08
  | 'f' => some 0x0C
  | 'n' => some 0x0A
  | 'r' => some 0x0D
  | 't' => some 0x09
  | _ => none

/-- The code unit that four hexadecimal digits denote. -/
def codeUnit? (a b c d : UInt8) : Option Nat := do
  let digit := fun (x : UInt8) ↦ Text.hexValue? (Char.ofNat x.toNat)
  return (((← digit a) * 16 + (← digit b)) * 16 + (← digit c)) * 16 + (← digit d)

/-- The parts of a string after its opening quote, up to its closing quote, and the rest, if the
string is closed and well formed. -/
def readParts : Octets → Option (List StringPart × Octets)
  | [] => none
  | b :: rest =>
    if b == 0x22 then some ([], rest)
    else if b < 0x20 then none
    else if b == 0x5C then
      match rest with
      | [] => none
      | letter :: rest =>
        if letter == 0x75 then
          match rest with
          | h₁ :: h₂ :: h₃ :: h₄ :: rest =>
            match codeUnit? h₁ h₂ h₃ h₄, readParts rest with
            | some u, some (parts, rest) => some (.unit u :: parts, rest)
            | _, _ => none
          | _ => none
        else
          match escapedByte? letter, readParts rest with
          | some e, some (parts, rest) => some (.byte e :: parts, rest)
          | _, _ => none
    else
      match readParts rest with
      | some (parts, rest) => some (.byte b :: parts, rest)
      | none => none

/-- The bytes that the parts of a string denote: two code units in a row that form a surrogate pair
denote one character, and a surrogate on its own denotes none. -/
def partBytes? : List StringPart → Option Octets
  | [] => some []
  | .byte b :: parts => (partBytes? parts).map (b :: ·)
  | .unit u :: parts =>
    if 0xD800 ≤ u && u < 0xDC00 then
      match parts with
      | .unit v :: parts =>
        if 0xDC00 ≤ v && v < 0xE000 then
          let c := Char.ofNat (0x10000 + (u - 0xD800) * 0x400 + (v - 0xDC00))
          (partBytes? parts).map (String.utf8EncodeChar c ++ ·)
        else none
      | _ => none
    else if 0xDC00 ≤ u && u < 0xE000 then none
    else (partBytes? parts).map (String.utf8EncodeChar (Char.ofNat u) ++ ·)

/-- A string after its opening quote: the text it denotes, if it denotes one, and the rest. -/
def readString (input : Octets) : Option (Option String × Octets) := do
  let (parts, rest) ← readParts input
  return ((partBytes? parts).bind Utf8.decode?, rest)

/-! ## Numbers -/

/-- The digits of a number as written, not yet a number: `Numeral.number?` says which one they
denote. -/
structure Numeral where
  negative : Bool
  whole : List Nat
  /-- The digits after the decimal point, if there is one. -/
  fraction : Option (List Nat)
  /-- The exponent, if there is one. -/
  exponent : Option Int

/-- The values of the leading decimal digits and the rest. -/
def readDigits (input : Octets) : List Nat × Octets :=
  ((input.takeWhile isDigit).map fun b ↦ b.toNat - 0x30, input.dropWhile isDigit)

/-- The number that decimal digits denote. -/
def digitsValue (digits : List Nat) : Nat :=
  digits.foldl (fun total d ↦ total * 10 + d) 0

/-- The fraction at the start of the input, if there is a decimal point. -/
def readFraction (input : Octets) : Option (Option (List Nat) × Octets) :=
  match input with
  | 0x2E :: rest =>
    let (digits, rest) := readDigits rest
    if digits.isEmpty then none else some (some digits, rest)
  | _ => some (none, input)

/-- The exponent at the start of the input, if there is one. -/
def readExponent (input : Octets) : Option (Option Int × Octets) :=
  match input with
  | [] => some (none, input)
  | b :: rest =>
    if b == 0x65 || b == 0x45 then
      let negative := rest.head? == some 0x2D
      let signed := negative || rest.head? == some 0x2B
      let (digits, rest) := readDigits (if signed then rest.drop 1 else rest)
      if digits.isEmpty then none
      else
        let magnitude : Int := digitsValue digits
        some (some (if negative then -magnitude else magnitude), rest)
    else some (none, input)

/-- The digits of a number at the start of the input, and the rest. A whole part has no leading
zeros. -/
def readNumeral (input : Octets) : Option (Numeral × Octets) := do
  let negative := input.head? == some 0x2D
  let (whole, rest) := readDigits (if negative then input.drop 1 else input)
  if whole.isEmpty || (whole.head? == some 0 && whole.length > 1) then none
  else
    let (fraction, rest) ← readFraction rest
    let (exponent, rest) ← readExponent rest
    return ({ negative, whole, fraction, exponent }, rest)

/-- The largest whole number that is kept exactly. -/
def largestNatural : Nat := Nat.pow 2 64 - 1

/-- Append digits to a number as long as it stays at most `largestNatural`; the result and how many
digits were taken. -/
def appendDigits : Nat → List Nat → Nat × Nat
  | total, [] => (total, 0)
  | total, d :: digits =>
    if total * 10 + d ≤ largestNatural then
      let (result, taken) := appendDigits (total * 10 + d) digits
      (result, taken + 1)
    else (total, 0)

/-- The number a numeral denotes, unless it is out of range. Digits past those that fit 64 bits only
count for the magnitude; a fraction continues the whole digits. -/
def Numeral.number? (n : Numeral) : Option Number :=
  let (whole, taken) := appendDigits 0 n.whole
  if n.fraction.isNone && n.exponent.isNone && taken == n.whole.length then
    if !n.negative then some (.natural whole)
    else if whole != 0 && whole ≤ Nat.pow 2 63 then some (.negated whole)
    else (Binary64.ofNat? whole).map fun x ↦ .real (x.withSign true)
  else
    let (digits, places) := appendDigits whole (n.fraction.getD [])
    let scale : Int := ((n.whole.length - taken : Nat) : Int) - places + n.exponent.getD 0
    (Binary64.ofDecimal? digits scale).map fun x ↦ .real (x.withSign n.negative)

/-- A number at the start of the input: its value, unless it is out of range, and the rest. -/
def readNumber (input : Octets) : Option (Option Number × Octets) := do
  let (numeral, rest) ← readNumeral input
  return (numeral.number?, rest)

end BulkJobs.Json
