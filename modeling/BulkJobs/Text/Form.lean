import BulkJobs.Text.Percent

/-!
# Form encoding

Name and value pairs as a query text: blanks become `+`, letters, digits and `*-._` stay, and every
other byte is percent encoded. Pairs are joined by `&`.
-/

set_option autoImplicit false
set_option relaxedAutoImplicit false

namespace BulkJobs.Form

/-- Whether form encoding keeps the character: a letter, a digit or one of `*`, `-`, `.`, `_`. -/
def isKept (c : Char) : Bool :=
  Text.isAsciiAlphanumeric c || c == '*' || c == '-' || c == '.' || c == '_'

/-- One name or value, form encoded: a plus sign for a blank, triples for the rest that is not
kept. -/
def encodeText (text : String) : List Char :=
  text.toList.flatMap fun c ↦ if c == ' ' then ['+'] else Percent.encodeChar isKept c

/-- One pair, form encoded, with an equals sign between name and value. -/
def encodePair (pair : String × String) : List Char :=
  encodeText pair.1 ++ '=' :: encodeText pair.2

/-- The query that `pairs` make when they are appended to a query text. -/
def append (query : List Char) (pairs : List (String × String)) : List Char :=
  pairs.foldl
    (fun text pair ↦ if text.isEmpty then encodePair pair else text ++ '&' :: encodePair pair)
    query

end BulkJobs.Form
