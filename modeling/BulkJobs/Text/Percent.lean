import BulkJobs.Text.Ascii
import BulkJobs.Text.Utf8

/-!
# Percent encoding

An encoder is given by the set of bytes it keeps; every other byte becomes `%` and two upper-case
hexadecimal digits. Decoding undoes any such encoder whose kept bytes leave out `%`.
-/

set_option autoImplicit false
set_option relaxedAutoImplicit false

namespace BulkJobs.Percent

/-- `%` and the two upper-case hexadecimal digits of a byte. -/
def triple (b : UInt8) : List Char :=
  ['%', Text.upperHexDigit (b.toNat / 16), Text.upperHexDigit (b.toNat % 16)]

/-- Encode the UTF-8 bytes of a character unless it is an ASCII character of a kept set. -/
def encodeChar (keep : Char → Bool) (c : Char) : List Char :=
  if c.toNat < 0x80 && keep c then [c] else (String.utf8EncodeChar c).flatMap triple

def encodeChars (keep : Char → Bool) (text : List Char) : List Char :=
  text.flatMap (encodeChar keep)

/-- The byte two hexadecimal digits denote, if both are such digits. -/
def byte? (high low : UInt8) : Option UInt8 := do
  let h ← Text.hexValue? (Char.ofNat high.toNat)
  let l ← Text.hexValue? (Char.ofNat low.toNat)
  return UInt8.ofNat (h * 16 + l)

/-- Undo percent encoding: every `%` with two hexadecimal digits becomes the byte they denote, and
everything else stays. -/
def decode : Octets → Octets
  | [] => []
  | 0x25 :: high :: low :: rest =>
    match byte? high low with
    | some b => b :: decode rest
    | none => 0x25 :: decode (high :: low :: rest)
  | b :: rest => b :: decode rest

/-- Whether a character is unreserved in a URL: a letter, a digit or one of `-`, `_`, `.`, `~`. -/
def isUnreserved (c : Char) : Bool :=
  Text.isAsciiAlphanumeric c || c == '-' || c == '_' || c == '.' || c == '~'

/-- A text as one URL path segment: everything that is not unreserved is encoded. -/
def encodeSegment (value : String) : String :=
  .ofList (encodeChars isUnreserved value.toList)

end BulkJobs.Percent
