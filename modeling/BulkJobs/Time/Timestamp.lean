import BulkJobs.Text.Ascii
import BulkJobs.Text.Blank
import BulkJobs.Time.Calendar

/-!
# Points in time

A point in time is a number of seconds since 1 January 1970 and a number of nanoseconds, both in
UTC. Inside a leap second the seconds stay at 59 and the nanoseconds run past one second. Two
spellings are read: the one with an offset without a `Z`, in which blanks may stand before numbers,
and the stricter one of the internet, which also knows `Z`.
-/

set_option autoImplicit false
set_option relaxedAutoImplicit false

namespace BulkJobs

/-- A point in time, in seconds from 1970 on and nanoseconds, without leap seconds. -/
structure Timestamp where
  seconds : Int
  nanoseconds : Nat
deriving DecidableEq, Repr

namespace Timestamp

/-- A date and time of day with its distance from UTC, as written. -/
structure Civil where
  year : Int
  month : Nat
  day : Nat
  hour : Nat
  minute : Nat
  second : Nat
  nanosecond : Nat
  /-- Seconds that the local time is ahead of UTC. -/
  offset : Int

/-- The first and the last year that points in time are kept for. -/
def yearRange : Int × Int := (-262143, 262142)

/-- The point in time of a civil date and time, if it exists. -/
def ofCivil (c : Civil) : Option Timestamp :=
  let inRange := fun (year : Int) ↦ yearRange.1 ≤ year && year ≤ yearRange.2
  if inRange c.year && Calendar.isDate c.year c.month c.day && c.hour ≤ 23 && c.minute ≤ 59 &&
      c.second ≤ 60 && c.offset.natAbs < 86400 then
    let leap := c.second == 60
    let timeOfDay := c.hour * 3600 + c.minute * 60 + (if leap then 59 else c.second)
    let seconds := Calendar.dayNumber c.year c.month c.day * 86400 + timeOfDay - c.offset
    if inRange (Calendar.dateOf (seconds.fdiv 86400)).1 then
      some ⟨seconds, c.nanosecond + if leap then 1000000000 else 0⟩
    else none
  else none

/-- A scanner of text, which fails or goes on with the rest of the text behind what it took. -/
abbrev Scanner (α : Type) :=
  StateT (List Char) Option α

namespace Scanner

def char (expected : Char) : Scanner Unit := fun input ↦
  match input with
  | c :: rest => if c == expected then some ((), rest) else none
  | [] => none

def oneOf (expected : List Char) : Scanner Char := fun input ↦
  match input with
  | c :: rest => if expected.contains c then some (c, rest) else none
  | [] => none

/-- Skip the leading characters of a class. -/
def skip (p : Char → Bool) : Scanner Unit := fun input ↦
  some ((), input.dropWhile p)

/-- A run of at least `low` and at most `high` digits. -/
def digits (low high : Nat) : Scanner (List Char) := fun input ↦
  let run := (input.takeWhile Text.isAsciiDigit).take high
  if run.length < low then none else some (run, input.drop run.length)

/-- The number that a run of digits denotes. -/
def number (low high : Nat) : Scanner Nat := do
  let run ← digits low high
  return (Text.decimal? run).getD 0

/-- A number with leading blanks. -/
def looseNumber (width : Nat) : Scanner Nat := do
  skip Text.isBlank
  number 1 width

/-- A year with leading blanks: up to four digits, or a sign and any number of digits. -/
def looseYear : Scanner Int := do
  skip Text.isBlank
  let input ← get
  match input with
  | '-' :: rest => do
    set rest
    return -((← number 1 rest.length) : Int)
  | '+' :: rest => do
    set rest
    return ((← number 1 rest.length) : Int)
  | _ => return ((← number 1 4) : Int)

/-- A fraction of a second, if there is one, in nanoseconds; digits past the ninth are skipped. -/
def fraction : Scanner Nat := do
  let input ← get
  match input with
  | '.' :: rest => do
    set rest
    let run ← digits 1 9
    skip Text.isAsciiDigit
    return (Text.decimal? run).getD 0 * Nat.pow 10 (9 - run.length)
  | _ => return 0

/-- A signed offset in seconds, with a scanner for what stands between hours and minutes. -/
def offset (separator : Scanner Unit) : Scanner Int := do
  let sign ← oneOf ['+', '-', Char.ofNat 0x2212]
  let hours ← number 2 2
  separator
  let minutes ← number 2 2
  if minutes ≤ 59 then
    let total : Int := hours * 3600 + minutes * 60
    return if sign == '+' then total else -total
  else failure

def done : Scanner Unit := fun input ↦
  if input.isEmpty then some ((), []) else none

/-- The loose spelling, such as `2026-03-02T10:15:30.000+0000`. -/
def loose : Scanner Civil := do
  let year ← looseYear
  char '-'
  let month ← looseNumber 2
  char '-'
  let day ← looseNumber 2
  char 'T'
  let hour ← looseNumber 2
  char ':'
  let minute ← looseNumber 2
  char ':'
  let second ← looseNumber 2
  let nanosecond ← fraction
  skip Text.isBlank
  let offset ← offset (skip fun c ↦ c == ':' || Text.isBlank c)
  done
  return { year, month, day, hour, minute, second, nanosecond, offset }

/-- `Z` for UTC, or an offset with a colon. -/
def strictOffset : Scanner Int := do
  let input ← get
  match input with
  | 'Z' :: rest | 'z' :: rest => do
    set rest
    return 0
  | _ => offset (char ':')

/-- The strict spelling, such as `2026-03-02T10:15:30Z`. -/
def strict : Scanner Civil := do
  let year ← number 4 4
  char '-'
  let month ← number 2 2
  char '-'
  let day ← number 2 2
  let _ ← oneOf ['T', 't', ' ']
  let hour ← number 2 2
  char ':'
  let minute ← number 2 2
  char ':'
  let second ← number 2 2
  let nanosecond ← fraction
  let offset ← strictOffset
  done
  return { year, month, day, hour, minute, second, nanosecond, offset }

end Scanner

/-- The point in time that a text denotes, in the loose spelling or otherwise in the strict one. -/
def parse? (text : String) : Option Timestamp :=
  let run := fun (scanner : Scanner Civil) ↦ do
    let (civil, _) ← scanner text.toList
    ofCivil civil
  run Scanner.loose <|> run Scanner.strict

/-- A year with at least four digits, and a sign outside the years 0 to 9999. -/
def describeYear (year : Int) : String :=
  if 0 ≤ year && year ≤ 9999 then Text.paddedDecimal 4 year.toNat
  else (if year < 0 then "-" else "+") ++ Text.paddedDecimal 4 year.natAbs

/-- A fraction of a second in three, six or nine digits, or nothing if there is none. -/
def describeFraction (nanoseconds : Nat) : String :=
  if nanoseconds == 0 then ""
  else if nanoseconds % 1000000 == 0 then "." ++ Text.paddedDecimal 3 (nanoseconds / 1000000)
  else if nanoseconds % 1000 == 0 then "." ++ Text.paddedDecimal 6 (nanoseconds / 1000)
  else "." ++ Text.paddedDecimal 9 nanoseconds

/-- The point in time as a date and a time of day in UTC. -/
def describe (t : Timestamp) : String :=
  let days := t.seconds.fdiv 86400
  let timeOfDay := (t.seconds - days * 86400).toNat
  let (year, month, day) := Calendar.dateOf days
  let leap := 1000000000 ≤ t.nanoseconds
  let second := timeOfDay % 60 + if leap then 1 else 0
  let two := Text.paddedDecimal 2
  describeYear year ++ "-" ++ two month ++ "-" ++ two day ++ " " ++ two (timeOfDay / 3600) ++ ":" ++
    two (timeOfDay / 60 % 60) ++ ":" ++ two second ++
    describeFraction (if leap then t.nanoseconds - 1000000000 else t.nanoseconds) ++ " UTC"

end Timestamp

end BulkJobs
