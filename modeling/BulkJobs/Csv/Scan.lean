import BulkJobs.Csv.Problem
import BulkJobs.Text.Utf8

/-!
# Cutting CSV data into records

A byte at a time, with a mode that says where in a field the scan stands. A quote opens a quoted
field only at its start; inside, two quotes are one, and after the closing quote the field goes on
bare. A record ends at a carriage return or a line feed, and empty lines between records do not
count.
-/

set_option autoImplicit false
set_option relaxedAutoImplicit false

namespace BulkJobs.Csv

def quote : UInt8 := 0x22

/-- Whether a byte ends a record, as either part of a line break does. -/
def isTerminator (b : UInt8) : Bool :=
  b == 0x0A || b == 0x0D

/-- Where in a field the scan stands: before a record or a further field, outside or inside quotes,
or behind a quote that may end the quoted part or be the first of two. -/
inductive Mode where
  | recordStart
  | fieldStart
  | bare
  | quoted
  | quoteSeen
deriving DecidableEq, Repr

/-- The record that is being read: the bytes of the open field and the fields before it, each the
last one first. -/
structure Partial where
  field : Octets
  fields : List Octets
deriving DecidableEq, Repr

namespace Partial

def empty : Partial := ⟨[], []⟩

/-- The open field goes on with a byte. -/
def push (p : Partial) (b : UInt8) : Partial :=
  { p with field := b :: p.field }

/-- The open field is done and another one opens. -/
def next (p : Partial) : Partial :=
  { field := [], fields := p.field.reverse :: p.fields }

def finish (p : Partial) : List Octets :=
  (p.field.reverse :: p.fields).reverse

end Partial

/-- What a byte does to the scan: the scan goes on in some mode, or a record ends. -/
inductive Move where
  | goOn (mode : Mode) (read : Partial)
  | emit (fields : List Octets)

/-- The move on a byte that is neither special by mode nor part of quotes. -/
def moveBare (delimiter b : UInt8) (read : Partial) : Move :=
  if b == delimiter then .goOn .fieldStart read.next
  else if isTerminator b then .emit read.finish
  else .goOn .bare (read.push b)

/-- The move on a byte, from the mode that the scan is in. -/
def move (delimiter b : UInt8) (mode : Mode) (read : Partial) : Move :=
  match mode with
  | .recordStart =>
    if isTerminator b then .goOn .recordStart read
    else if b == quote then .goOn .quoted read
    else moveBare delimiter b read
  | .fieldStart => if b == quote then .goOn .quoted read else moveBare delimiter b read
  | .bare => moveBare delimiter b read
  | .quoted => if b == quote then .goOn .quoteSeen read else .goOn .quoted (read.push b)
  | .quoteSeen =>
    if b == quote then .goOn .quoted (read.push b) else moveBare delimiter b read

/-- A line and a byte of the data. -/
structure Spot where
  line : Nat
  byte : Nat
deriving DecidableEq, Repr

/-- The spot after a byte. -/
def Spot.after (spot : Spot) (b : UInt8) : Spot where
  line := if b == 0x0A then spot.line + 1 else spot.line
  byte := spot.byte + 1

/-- A record as cut from the data, with the spot where the record before it ended. -/
structure Record where
  start : Spot
  fields : List Octets
deriving DecidableEq, Repr

/-- The records from here on: the current record started at `start`, and the next byte is at
`here`. -/
def records (delimiter : UInt8) (start here : Spot) (mode : Mode) (read : Partial) :
    Octets → List Record
  | [] => if mode = .recordStart then [] else [{ start, fields := read.finish }]
  | b :: bytes =>
    let next := here.after b
    match move delimiter b mode read with
    | .goOn mode read => records delimiter start next mode read bytes
    | .emit fields =>
      { start, fields } :: records delimiter next next .recordStart .empty bytes

/-- The data without a byte order mark at its start, and the length of the mark. -/
def skipMark : Octets → Octets × Nat
  | 0xEF :: 0xBB :: 0xBF :: bytes => (bytes, 3)
  | bytes => (bytes, 0)

/-- The records of CSV data, behind a byte order mark if there is one. The scan takes any bytes, so
it never fails. -/
def scan (delimiter : UInt8) (data : Octets) : List Record :=
  let (bytes, skipped) := skipMark data
  records delimiter ⟨1, 0⟩ ⟨1, skipped⟩ .recordStart .empty bytes

end BulkJobs.Csv
