import BulkJobs.Text.Percent
import BulkJobs.Url.Basic
import BulkJobs.Url.Domain.Direction
import BulkJobs.Url.Domain.Joining
import BulkJobs.Url.Domain.Punycode
import BulkJobs.Url.Domain.Spelling

/-!
# Domain names

A domain name is percent decoded and spelled as the standard says. It then must be free of the ASCII
characters that mean something in a URL, and its labels must be valid. A label that is not ASCII is
written in Punycode behind a mark, and one that comes so is read to see whether it is valid.
-/

set_option autoImplicit false
set_option relaxedAutoImplicit false

namespace BulkJobs.Domain

/-- Whether an ASCII character may not stand in a domain name. -/
def isForbidden (c : Char) : Bool :=
  c.toNat ≤ 0x20 || c.toNat == 0x7F ||
    ['%', '#', '/', ':', '<', '>', '?', '@', '[', '\\', ']', '^', '|'].contains c

def isAscii (text : List Char) : Bool :=
  text.all (·.toNat < 0x80)

/-- The spelling of a text in a domain name. -/
def spelling? (text : List Char) : Option (List Char) := do
  return compose (← text.mapM spell?).flatten

/-- A label as it shows and as it is written, which differ when it is written in Punycode. -/
structure Label where
  shown : List Char
  written : List Char

/-- Whether the joiners of a label stand right, it starts with no mark, and it is not too long to be
written. -/
def isValidLabel (shown : List Char) : Bool :=
  !shown.head?.any isMark && joinersStand [] shown && (isAscii shown || shown.length ≤ 1000)

/-- The mark of a label written in Punycode. -/
def mark : List Char := ['x', 'n', '-', '-']

/-- What a label written in Punycode shows: at least one character beyond ASCII, in its spelling. -/
def readLabel? (coded : List Char) : Option (List Char) :=
  if coded.getLast? == some '-' || coded.isEmpty || coded.length > 2000 then none
  else (Punycode.decode? coded).filter fun shown ↦ spelling? shown == some shown

/-- The label of a text in its spelling. -/
def Label.ofText? (text : List Char) : Option Label :=
  let label? :=
    if mark.isPrefixOf text then
      (readLabel? (text.drop mark.length)).map ({ shown := ·, written := text })
    else if isAscii text then some { shown := text, written := text }
    else some { shown := text, written := mark ++ Punycode.encode text }
  label?.filter (isValidLabel ·.shown)

/-- The labels of a text in its spelling, if all of them are valid and their directions go
together. -/
def labels? (text : List Char) : Option (List Label) := do
  let labels ← (Text.splitOn '.' text).mapM Label.ofText?
  if !labels.any (hasRightToLeft ·.shown) || labels.all (hasOneDirection ·.shown) then some labels
  else none

/-- Labels as they are written, with dots between them. -/
def write (labels : List Label) : List Char :=
  List.intercalate ['.'] (labels.map (·.written))

/-- The ASCII form of a domain name, if it has one. -/
def toAscii? (name : List Char) : Option (List Char) := do
  let text ← spelling? name
  if text.any isForbidden then none else write <$> labels? text

/-- The ASCII form of a domain name as it is written in a URL, percent encoded perhaps. -/
def parse (written : List Char) : Except UrlProblem (List Char) :=
  let decoded? := Utf8.decode? (Percent.decode (Utf8.encode (.ofList written)))
  match decoded?.bind (toAscii? ·.toList) with
  | some [] => .error .emptyHost
  | some name => .ok name
  | none => .error .invalidInternationalName

end BulkJobs.Domain
