import BulkJobs.Text.Percent

/-!
# What may stand where in a URL

For each part of a URL the ASCII characters that are kept as they are. Characters beyond ASCII are
always percent encoded.
-/

set_option autoImplicit false
set_option relaxedAutoImplicit false

namespace BulkJobs.Url

/-- Whether the character is printable ASCII. -/
def isPrintable (c : Char) : Bool :=
  0x20 ≤ c.toNat && c.toNat < 0x7F

/-- Whether a character is kept in a fragment, not percent encoded. -/
def keptInFragment (c : Char) : Bool :=
  isPrintable c && !([' ', '"', '<', '>', '\x60'].contains c)

/-- Whether a character is kept in a path segment. -/
def keptInPath (c : Char) : Bool :=
  keptInFragment c && !(['#', '?', '\x7b', '\x7d'].contains c)

/-- Whether a character is kept in a user name or a password. -/
def keptInUserInfo (c : Char) : Bool :=
  keptInPath c && !(['/', ':', ';', '=', '@', '[', '\\', ']', '^', '|'].contains c)

/-- Whether a character is kept in the query of a URL with a special scheme, or of another one. -/
def keptInQuery (special : Bool) (c : Char) : Bool :=
  isPrintable c && !([' ', '"', '#', '<', '>'].contains c) && !(special && c == '\'')

/-- A part of a URL with the characters that may not stand there percent encoded. -/
def escape (keep : Char → Bool) (text : List Char) : String :=
  .ofList (Percent.encodeChars keep text)

end BulkJobs.Url
