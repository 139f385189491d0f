import BulkJobs.Text.Ascii

/-!
# Punycode

A text as ASCII: first its ASCII characters, then, after a hyphen, where the others are to be put
in. The others come in ascending order, and each is written as the distance from the one before it,
counted over all places of the text so far. The digits of a distance have a base of 36, and how many
of them it takes is told by thresholds that follow the sizes of the distances so far.
-/

set_option autoImplicit false
set_option relaxedAutoImplicit false

namespace BulkJobs.Punycode

/-- The digit of a value below 36. -/
def digit (n : Nat) : Char :=
  if n < 26 then Char.ofNat (0x61 + n) else Char.ofNat (0x30 + (n - 26))

/-- The value of a digit. -/
def digitValue? (c : Char) : Option Nat :=
  if Text.isAsciiDigit c then some (c.toNat - 0x30 + 26)
  else if Text.isAsciiLetter c then some ((Text.lowerAscii c).toNat - 0x61)
  else none

/-- A digit below the threshold is the last one of its distance. The thresholds lie from 1 to 26;
they rise along the digits, and the bias tells where. -/
def threshold (bias place : Nat) : Nat :=
  min (max (place * 36 - bias) 1) 26

/-- The bias for a distance scaled down until it is at most 455, with the bias gained so far. -/
def settle (delta bias : Nat) : Nat :=
  if 455 < delta then settle (delta / 35) (bias + 36) else bias + 36 * delta / (delta + 38)
termination_by delta

/-- The bias after a distance, in a text that has now `length` characters. -/
def adapt (first : Bool) (delta length : Nat) : Nat :=
  let damped := if first then delta / 700 else delta / 2
  settle (damped + damped / length) 0

/-- The digits of a distance from a place on. -/
def writeDistance (bias place distance : Nat) : List Char :=
  let t := threshold bias place
  if distance < t then [digit distance]
  else
    digit (t + (distance - t) % (36 - t)) ::
      writeDistance bias (place + 1) ((distance - t) / (36 - t))
termination_by distance
decreasing_by
  have hlow : 1 ≤ threshold bias place := by simp only [threshold]; omega
  exact Nat.lt_of_le_of_lt (Nat.div_le_self _ _) (by omega)

/-- What has been written, and what the next distance depends on. -/
structure Writing where
  written : List Char
  /-- The places passed since the last character put in. -/
  distance : Nat
  bias : Nat
  /-- The number of characters in the text so far. -/
  length : Nat
  /-- Whether nothing has been put in so far. -/
  first : Bool

/-- Pass one character of the text while characters with code point `n` are put in. -/
def Writing.pass (n : Nat) (w : Writing) (c : Char) : Writing :=
  if c.toNat < n then { w with distance := w.distance + 1 }
  else if c.toNat == n then
    { written := w.written ++ writeDistance w.bias 1 w.distance, distance := 0,
      bias := adapt w.first w.distance (w.length + 1), length := w.length + 1, first := false }
  else w

/-- Put in the characters with the given code points, which ascend from `n`. -/
def Writing.putIn (text : List Char) : Nat → List Nat → Writing → Writing
  | _, [], w => w
  | n, next :: rest, w =>
    let passed := text.foldl (Writing.pass next)
      { w with distance := w.distance + (next - n) * (w.length + 1) }
    putIn text (next + 1) rest { passed with distance := passed.distance + 1 }

/-- The code points of the characters beyond ASCII, each once, in ascending order. -/
def pointsBeyondAscii (text : List Char) : List Nat :=
  ((text.filter (·.toNat ≥ 0x80)).map Char.toNat).eraseDups.mergeSort

/-- Write a text. -/
def encode (text : List Char) : List Char :=
  let basic := text.filter (·.toNat < 0x80)
  let start : Writing :=
    { written := if basic.isEmpty then [] else basic ++ ['-'], distance := 0, bias := 72,
      length := basic.length, first := true }
  (start.putIn text 0x80 (pointsBeyondAscii text)).written

/-- Read the digits of a distance: add them to a total with a weight that grows from digit to digit.
Both stay below `2 ^ 32`. The rest is shorter than the text. -/
def readDistance (bias : Nat) (text : List Char) (place weight total : Nat) :
    Option (Nat × { rest : List Char // rest.length < text.length }) :=
  match text with
  | [] => none
  | c :: rest =>
    match digitValue? c with
    | none => none
    | some value =>
      let t := threshold bias place
      let total := total + value * weight
      if total ≥ Nat.pow 2 32 then none
      else if value < t then some (total, ⟨rest, Nat.lt_succ_self _⟩)
      else if weight * (36 - t) ≥ Nat.pow 2 32 then none
      else
        match readDistance bias rest (place + 1) (weight * (36 - t)) total with
        | none => none
        | some (total, ⟨rest', h⟩) => some (total, ⟨rest', Nat.lt_succ_of_lt h⟩)

/-- Put characters into a text as the digits say. Counting goes on from code point `n` and from the
place after the last character put in. -/
def readInsertions (bias n place : Nat) (first : Bool) (read : List Char) (text : List Char) :
    Option (List Char) :=
  if text.isEmpty then some read
  else
    match readDistance bias text 1 1 place with
    | none => none
    | some (reached, ⟨rest, _⟩) =>
      let length := read.length + 1
      let point := n + reached / length
      if point.isValidChar then
        readInsertions (adapt first (reached - place) length) point (reached % length + 1) false
          (read.insertIdx (reached % length) (Char.ofNat point)) rest
      else none
termination_by text.length

/-- Read a text. Its last hyphen, unless it is the first character, ends the ASCII characters. -/
def decode? (text : List Char) : Option (List Char) :=
  let digits := (text.reverse.takeWhile (· != '-')).reverse
  let basic := text.take (text.length - digits.length - 1)
  if basic.any (·.toNat ≥ 0x80) then none
  else if basic.isEmpty then readInsertions 72 0x80 0 true [] text
  else readInsertions 72 0x80 0 true basic digits

end BulkJobs.Punycode
