import BulkJobs.Http.Traffic

/-!
# Scripts of replies

The replies of a network, written in JSON: an array of objects with the members `status`, `headers`,
`body` or `body_hex`, `on` and `fault`, all of which may be missing.
-/

set_option autoImplicit false
set_option relaxedAutoImplicit false

namespace BulkJobs.Http.Script

/-- The bytes that pairs of hexadecimal digits denote. -/
def hexBytes? : List Char → Option Octets
  | [] => some []
  | high :: low :: rest => do
    let h ← Text.hexValue? high
    let l ← Text.hexValue? low
    return UInt8.ofNat (h * 16 + l) :: (← hexBytes? rest)
  | [_] => none

/-- The text of a member of an object. -/
def textOf? (key : String) (value : Json) : Option String :=
  match value.member? key with
  | some (.text text) => some text
  | _ => none

/-- The bytes of a member of an object, which stand there as text or, with another key, as
hexadecimal digits. -/
def bytesOf (key : String) (value : Json) : Octets :=
  match textOf? (key ++ "_hex") value with
  | some digits => (hexBytes? digits.toList).getD []
  | none => Utf8.encode ((textOf? key value).getD "")

/-- The headers that pairs of names and values denote. -/
def headersOf (value : Json) : List Header :=
  match value.member? "headers" with
  | some (.list pairs) => pairs.filterMap fun
    | .list [.text name, .text text] => some (.arrived name text)
    | _ => none
  | _ => []

/-- The fault of a reply. -/
def faultOf? (value : Json) : Option Fault :=
  match textOf? "fault" value with
  | some "refuse" => some .refuse
  | some "close" => some .close
  | some "hang" => some .hang
  | some "truncate" => some .truncate
  | _ => none

/-- The status of a reply. -/
def statusOf (value : Json) : Nat :=
  match value.member? "status" with
  | some (.number (.natural status)) => status
  | _ => 200

/-- A reply of a script. -/
def replyOf (value : Json) : Reply where
  only := textOf? "on" value
  status := statusOf value
  headers := headersOf value
  body := bytesOf "body" value
  fault := faultOf? value

/-- The replies of a script. -/
def repliesOf : Json → List Reply
  | .list replies => replies.map replyOf
  | _ => []

end BulkJobs.Http.Script
