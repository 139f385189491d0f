import BulkJobs.Text.Ascii
import BulkJobs.Text.Blank
import BulkJobs.Text.Utf8

/-!
# Headers

Names are compared without regard to case, so they are kept in lower case. A value may hold any byte
but controls; it reads as text only when it is printable ASCII.
-/

set_option autoImplicit false
set_option relaxedAutoImplicit false

namespace BulkJobs.Http

/-- A header line, with its name and value as they are sent. -/
structure Header where
  name : String
  value : String
deriving DecidableEq, Repr

namespace Header

def isNameChar (c : Char) : Bool :=
  Text.isAsciiAlphanumeric c ||
    ['!', '#', '$', '%', '&', '\'', '*', '+', '-', '.', '^', '_', '\x60', '|', '~'].contains c

/-- Whether a text is a header name: it is not empty, and its characters may stand in a header
name. -/
def isName (name : String) : Bool :=
  !name.isEmpty && name.toList.all isNameChar && name.utf8ByteSize < 65536

/-- Whether a text is fit for a header value. -/
def isValue (value : String) : Bool :=
  value.toList.all fun c ↦ c == '\t' || (0x20 ≤ c.toNat && c.toNat != 0x7F)

/-- The header with a name, in lower case, and a value, if both are fit. -/
def make? (name value : String) : Option Header :=
  if isName name && isValue value then some { name := Text.lowerAsciiText name, value } else none

/-- A header with its name in lower case and its value without blanks at its ends, as it arrives. -/
def arrived (name value : String) : Header where
  name := Text.lowerAsciiText name
  value := .ofList (Text.stripWhile (fun c ↦ c == ' ' || c == '\t') value.toList)

/-- Whether a value reads as text: its characters are ASCII, and of the control characters only
tabs. -/
def isReadable (value : String) : Bool :=
  value.toList.all fun c ↦ c == '\t' || (0x20 ≤ c.toNat && c.toNat < 0x7F)

/-- Whether a header with this name is among the headers. -/
def has (name : String) (headers : List Header) : Bool :=
  headers.any (·.name == name)

/-- The value of the first header with this name, if it reads as text. -/
def find? (name : String) (headers : List Header) : Option String :=
  match headers.find? (·.name == Text.lowerAsciiText name) with
  | some header => if isReadable header.value then some header.value else none
  | none => none

/-- Add a header unless there is one with its name. -/
def addIfAbsent (header : Header) (headers : List Header) : List Header :=
  if has header.name headers then headers else headers ++ [header]

end Header

end BulkJobs.Http
