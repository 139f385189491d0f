import BulkJobs.Text.Ascii
import BulkJobs.Url.Domain.DirectionTable

/-!
# Names written from right to left

In a domain name with characters written from right to left, every label has one direction, told by
its first character, and holds no character that would show out of its place.
-/

set_option autoImplicit false
set_option relaxedAutoImplicit false

namespace BulkJobs.Domain

open Text

/-- How a character takes part in the direction of a text. -/
inductive Direction where
  | left
  | right
  | europeanNumber
  | arabicNumber
  | neutral
  /-- Taken from the character before it. -/
  | inherited
deriving DecidableEq, Repr

/-- The direction of a character of a domain name. -/
def direction (c : Char) : Direction :=
  if c.toNat < 0x80 then
    if isAsciiLetter c then .left else if isAsciiDigit c then .europeanNumber else .neutral
  else if Table.covers rightTable c then .right
  else if Table.covers arabicNumberTable c then .arabicNumber
  else if Table.covers europeanNumberTable c then .europeanNumber
  else if Table.covers neutralTable c then .neutral
  else if Table.covers spacelessTable c then .inherited
  else .left

/-- Whether a text shows from right to left somewhere. -/
def hasRightToLeft (text : List Char) : Bool :=
  text.any fun c ↦ direction c == .right || direction c == .arabicNumber

/-- Whether directions may stand in a label with a direction. A label from left to right holds
nothing from right to left and ends in a letter or a number, and the reverse; one from right to left
holds numbers of one kind only. -/
def agrees (directions : List Direction) : Bool :=
  let last := (directions.reverse.dropWhile (· == .inherited)).head?
  match directions with
  | .left :: _ =>
    directions.all (fun d ↦ d != .right && d != .arabicNumber) &&
      (last == some .left || last == some .europeanNumber)
  | .right :: _ =>
    directions.all (· != .left) &&
      !(directions.contains .europeanNumber && directions.contains .arabicNumber) &&
      (last == some .right || last == some .europeanNumber || last == some .arabicNumber)
  | _ => false

/-- Whether a label may stand in a domain name with characters written from right to left. -/
def hasOneDirection (label : List Char) : Bool :=
  label.isEmpty || agrees (label.map direction)

end BulkJobs.Domain
