/-!
# UTF-8

Byte strings are lists of bytes. Reading UTF-8 is a scan that owes a number of continuation bytes:
it turns a byte string into pieces, each a scalar value or a maximal run of bytes that starts none.
Strict decoding accepts a byte string without garbage; lossy decoding shows each piece of garbage as
the replacement character.
-/

set_option autoImplicit false
set_option relaxedAutoImplicit false

namespace BulkJobs

abbrev Octets := List UInt8

namespace Utf8

def encode (text : String) : Octets :=
  text.toList.flatMap String.utf8EncodeChar

def width (c : Char) : Nat :=
  (String.utf8EncodeChar c).length

/-- An unfinished character: the bits so far, the continuation bytes still owed, and the bounds of
the next one. Only the byte after the first one is held to narrower bounds than `0x80` to `0xBF`;
they keep out overlong forms, surrogates and values past `U+10FFFF`. -/
structure Owed where
  bits : Nat
  rest : Nat
  low : UInt8
  high : UInt8

/-- What one byte leads to: a character, an unfinished one, or garbage. -/
inductive Step where
  | scalar (c : Char)
  | owed (o : Owed)
  | garbage

/-- A piece of a byte string read as UTF-8: a character, or garbage that is read as one. -/
inductive Piece where
  | scalar (c : Char)
  | garbage
deriving DecidableEq, Repr

/-- The step on a byte where a character may start. -/
def start (b : UInt8) : Step :=
  if b < 0x80 then .scalar (Char.ofNat b.toNat)
  else if b < 0xC2 then .garbage
  else if b < 0xE0 then .owed ⟨b.toNat - 0xC0, 1, 0x80, 0xBF⟩
  else if b == 0xE0 then .owed ⟨0, 2, 0xA0, 0xBF⟩
  else if b == 0xED then .owed ⟨0xD, 2, 0x80, 0x9F⟩
  else if b < 0xF0 then .owed ⟨b.toNat - 0xE0, 2, 0x80, 0xBF⟩
  else if b == 0xF0 then .owed ⟨0, 3, 0x90, 0xBF⟩
  else if b < 0xF4 then .owed ⟨b.toNat - 0xF0, 3, 0x80, 0xBF⟩
  else if b == 0xF4 then .owed ⟨4, 3, 0x80, 0x8F⟩
  else .garbage

/-- The step on a byte inside an unfinished character, if the byte continues it. -/
def continue? (o : Owed) (b : UInt8) : Option Step :=
  if b < o.low || o.high < b then none
  else
    let bits := o.bits * 64 + (b.toNat - 0x80)
    if o.rest ≤ 1 then some (.scalar (Char.ofNat bits))
    else some (.owed ⟨bits, o.rest - 1, 0x80, 0xBF⟩)

/-- The pieces of a byte string, given the character that is unfinished before it, if there is
one. -/
def scan : Option Owed → Octets → List Piece
  | none, [] => []
  | some _, [] => [.garbage]
  | none, b :: bytes =>
    match start b with
    | .scalar c => .scalar c :: scan none bytes
    | .owed o => scan (some o) bytes
    | .garbage => .garbage :: scan none bytes
  | some o, b :: bytes =>
    match continue? o b with
    | some (.scalar c) => .scalar c :: scan none bytes
    | some (.owed next) => scan (some next) bytes
    | some .garbage => .garbage :: scan none bytes
    | none =>
      .garbage ::
        match start b with
        | .scalar c => .scalar c :: scan none bytes
        | .owed next => scan (some next) bytes
        | .garbage => .garbage :: scan none bytes

/-- The pieces of a byte string from a boundary of characters on. -/
def pieces (bytes : Octets) : List Piece :=
  scan none bytes

/-- The characters before the first garbage. -/
def leadingScalars : List Piece → List Char
  | .scalar c :: rest => c :: leadingScalars rest
  | _ => []

/-- The text that a byte string encodes, if it is valid UTF-8: if no piece of it is garbage. -/
def decode? (bytes : Octets) : Option String :=
  let read := pieces bytes
  if read.contains .garbage then none else some (.ofList (leadingScalars read))

/-- The number of bytes before the first one that is not valid UTF-8. -/
def validPrefixLength (bytes : Octets) : Nat :=
  (leadingScalars (pieces bytes)).foldr (fun c total ↦ width c + total) 0

/-- The text of a byte string with the replacement character for each piece of garbage. -/
def decodeLossy (bytes : Octets) : String :=
  .ofList ((pieces bytes).map fun
    | .scalar c => c
    | .garbage => Char.ofNat 0xFFFD)

end Utf8

end BulkJobs
