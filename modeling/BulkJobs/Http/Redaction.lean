import BulkJobs.Text.Ascii
import BulkJobs.Text.Utf8

/-!
# Redaction

What a service says may repeat an access token or a session id. Before a text of the service becomes
part of a message, both are replaced and the text is cut to a bounded size. Replacement goes from
left to right, takes the longest match at each place, and goes on behind it.
-/

set_option autoImplicit false
set_option relaxedAutoImplicit false

namespace BulkJobs.Http.Redaction

/-- A pattern: the length of its match at the start of a text, less one. A match is never empty. -/
abbrev Pattern :=
  List Char → Option Nat

/-- Replace all matches of a pattern, from left to right, after skipping a number of characters that
belong to the last match. -/
def replaceFrom (pattern : Pattern) (replacement : List Char) : Nat → List Char → List Char
  | _, [] => []
  | skip + 1, _ :: rest => replaceFrom pattern replacement skip rest
  | 0, c :: rest =>
    match pattern (c :: rest) with
    | some more => replacement ++ replaceFrom pattern replacement more rest
    | none => c :: replaceFrom pattern replacement 0 rest

/-- Replace all matches of a pattern in a text. -/
def replaceAll (pattern : Pattern) (replacement : String) (text : List Char) : List Char :=
  replaceFrom pattern replacement.toList 0 text

/-- Whether the character may stand behind the mark of an access token. -/
def isTokenChar (c : Char) : Bool :=
  Text.isAsciiAlphanumeric c || c == '_' || c == '.'

/-- Access tokens: two zeros and at least thirteen letters or digits, an exclamation mark, and at
least one character of the secret part. -/
def accessToken : Pattern
  | '0' :: '0' :: rest =>
    let org := (rest.takeWhile Text.isAsciiAlphanumeric).length
    match rest.drop org with
    | '!' :: secret =>
      let length := (secret.takeWhile isTokenChar).length
      if 13 ≤ org && 1 ≤ length then some (2 + org + length) else none
    | _ => none
  | _ => none

/-- Session ids: `sid=` and at least twenty letters or digits. -/
def sessionId : Pattern
  | 's' :: 'i' :: 'd' :: '=' :: rest =>
    let length := (rest.takeWhile Text.isAsciiAlphanumeric).length
    if 20 ≤ length then some (3 + length) else none
  | _ => none

/-- The longest prefix of at most the given number of UTF-8 bytes. -/
def takeBytes : Nat → List Char → List Char
  | _, [] => []
  | room, c :: rest =>
    if Utf8.width c ≤ room then c :: takeBytes (room - Utf8.width c) rest else []

/-- The number of UTF-8 bytes of a text. -/
def byteLength (text : List Char) : Nat :=
  text.foldr (fun c total ↦ Utf8.width c + total) 0

/-- The greatest number of bytes of a text of the service that is shown. -/
def maxLength : Nat := 500

/-- The text with access tokens replaced, and then session ids. -/
def redact (text : List Char) : List Char :=
  replaceAll sessionId "sid=[REDACTED]" (replaceAll accessToken "[REDACTED_TOKEN]" text)

/-- The text as it may be shown: redacted, and cut behind the last character that leaves it at most
`maxLength` bytes, with a mark where it is cut. -/
def sanitize (text : String) : String :=
  let redacted := redact text.toList
  if byteLength redacted > maxLength then
    .ofList (takeBytes maxLength redacted ++ "...[truncated]".toList)
  else .ofList redacted

end BulkJobs.Http.Redaction
