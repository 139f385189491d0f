import BulkJobs.Url.Domain.CompositionTable

/-!
# Composed spelling

A character and the marks after it may be spelled as one character or as several. The composed
spelling takes every character apart, brings the marks after it to their order, and puts together
again what there is a character for. Korean syllables are taken apart and put together by rule.
-/

set_option autoImplicit false
set_option relaxedAutoImplicit false

namespace BulkJobs.Domain

/-- Whether the character is a mark. -/
def isMark (c : Char) : Bool :=
  Text.Table.covers markTable c

/-- The combining class of a mark, zero for every other character. Marks of different classes do not
touch each other on a character. -/
def combiningClass (c : Char) : Nat :=
  (Text.Table.value? combiningTable c).getD 0

namespace Korean

/-- The first leading letter. -/
def leading : Nat := 0x1100

/-- The first vowel. -/
def vowel : Nat := 0x1161

/-- The code point before the first trailing letter. -/
def trailing : Nat := 0x11A7

/-- The first syllable. There is one for each of 19 leading letters, 21 vowels, and 27 trailing
letters or none. -/
def syllable : Nat := 0xAC00

/-- The two parts of a syllable: a shorter syllable and its trailing letter, or the two letters. -/
def parts? (n : Nat) : Option (Nat × Nat) :=
  let index := n - syllable
  if n < syllable || 19 * 21 * 28 ≤ index then none
  else if index % 28 == 0 then some (leading + index / 28 / 21, vowel + index / 28 % 21)
  else some (n - index % 28, trailing + index % 28)

/-- The syllable of two parts. -/
def join? (first second : Nat) : Option Nat :=
  if leading ≤ first && first < leading + 19 && vowel ≤ second && second < vowel + 21 then
    some (syllable + ((first - leading) * 21 + (second - vowel)) * 28)
  else if syllable ≤ first && first < syllable + 19 * 21 * 28 && (first - syllable) % 28 == 0 &&
      trailing < second && second < trailing + 28 then
    some (first + (second - trailing))
  else none

end Korean

/-- The two parts of a character in a row of the table. -/
def rowParts? (n : Nat) : List Nat → Option (Nat × Nat)
  | [whole, base, mark] => if n == whole then some (base, mark) else none
  | _ => none

/-- The character of two parts in a row of the table. -/
def rowWhole? (base mark : Nat) : List Nat → Option Nat
  | [whole, b, m] => if base == b && mark == m then some whole else none
  | _ => none

/-- Take a character apart into two, if it is made of two. -/
def takeApart (c : Char) : List Char :=
  match (Korean.parts? c.toNat).orElse fun _ ↦ compositeTable.findSome? (rowParts? c.toNat) with
  | some (base, mark) => [Char.ofNat base, Char.ofNat mark]
  | none => [c]

/-- Put two characters together, if there is a character made of them. -/
def putTogether? (base mark : Char) : Option Char :=
  ((Korean.join? base.toNat mark.toNat).orElse fun _ ↦
    compositeTable.findSome? (rowWhole? base.toNat mark.toNat)).map Char.ofNat

/-- Take all characters apart. No character is made of more than four. -/
def decompose (text : List Char) : List Char :=
  ((text.flatMap takeApart).flatMap takeApart).flatMap takeApart

/-- Move a mark behind the marks of lower classes that follow it. -/
def sink (c : Char) : List Char → List Char
  | [] => [c]
  | d :: rest =>
    if 0 < combiningClass d && combiningClass d < combiningClass c then d :: sink c rest
    else c :: d :: rest

/-- Bring the marks after each character to ascending classes. Marks of one class keep their order.
-/
def orderMarks (text : List Char) : List Char :=
  text.foldr sink []

/-- Put together what follows a character: `held` are the marks after it that found no place in it.
A mark is kept from the character by a held one of its own class. -/
def putTogether (base : Char) (held : List Char) : List Char → List Char
  | [] => base :: held
  | c :: rest =>
    let isKept := held.getLast?.any fun mark ↦ combiningClass c ≤ combiningClass mark
    match if isKept then none else putTogether? base c with
    | some whole => putTogether whole held rest
    | none =>
      if combiningClass c == 0 then base :: held ++ putTogether c [] rest
      else putTogether base (held ++ [c]) rest

/-- The composed spelling of a text. -/
def compose (text : List Char) : List Char :=
  match orderMarks (decompose text) with
  | [] => []
  | c :: rest => putTogether c [] rest

end BulkJobs.Domain
