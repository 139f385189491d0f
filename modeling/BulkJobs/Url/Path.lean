import BulkJobs.Url.Basic
import BulkJobs.Url.Escape

/-!
# Paths of URLs

A path is cut into segments at slashes. A segment of one dot is left out, and one of two dots takes
the segment before it away, unless that looks like a drive of a file system. Where the last segment
is one of the two the path ends in a slash.
-/

set_option autoImplicit false
set_option relaxedAutoImplicit false

namespace BulkJobs.Url

/-- Whether a segment means this folder, with its dot percent encoded perhaps. -/
def isSingleDot (segment : String) : Bool :=
  [".", "%2e", "%2E"].contains segment

/-- Whether a segment means the folder above, with its dots percent encoded perhaps. -/
def isDoubleDot (segment : String) : Bool :=
  ["..", "%2e%2e", "%2e%2E", "%2E%2e", "%2E%2E", "%2e.", "%2E.", ".%2e", ".%2E"].contains segment

/-- Whether a segment looks like a drive: a letter and a colon or a bar. -/
def isDrive (segment : String) : Bool :=
  match segment.toList with
  | [letter, mark] => Text.isAsciiLetter letter && (mark == ':' || mark == '|')
  | _ => false

/-- The segments before the last one, the last one first, without that one. -/
def dropLastSegment : List String → List String
  | [] => []
  | last :: before => if isDrive last then last :: before else before

/-- The segments of a path with its dot segments carried out, after the segments so far, the last
one first. -/
def carryOutDots (before : List String) : List String → List String
  | [] => before.reverse
  | [last] =>
    if isDoubleDot last then ("" :: dropLastSegment before).reverse
    else if isSingleDot last then ("" :: before).reverse
    else (last :: before).reverse
  | segment :: rest =>
    if isDoubleDot segment then carryOutDots (dropLastSegment before) rest
    else if isSingleDot segment then carryOutDots before rest
    else carryOutDots (segment :: before) rest

/-- Cut a path at slashes, and in URLs with a special scheme at backslashes too. -/
def cutPath (special : Bool) (path : List Char) : List (List Char) :=
  Text.splitOn '/' (path.map fun c ↦ if special && c == '\\' then '/' else c)

/-- The path without one slash at its start. -/
def dropSlash (special : Bool) : List Char → List Char
  | '/' :: path => path
  | '\\' :: path => if special then path else '\\' :: path
  | path => path

/-- The segments of a path that starts at its first slash, if it has one. -/
def pathSegments (special : Bool) (path : List Char) : List String :=
  carryOutDots [] ((cutPath special (dropSlash special path)).map (escape keptInPath))

/-- The segments of a file path: a first segment that starts with a drive is cut behind it, a bar
after the drive letter becomes a colon, and empty segments at the start are left out. -/
def fileSegments (path : List Char) : List String :=
  let cut := match cutPath true (dropSlash true path) with
    | (letter :: ':' :: c :: more) :: rest =>
      if Text.isAsciiLetter letter then [letter, ':'] :: (c :: more) :: rest
      else (letter :: ':' :: c :: more) :: rest
    | [letter, '|'] :: rest =>
      if Text.isAsciiLetter letter then [letter, ':'] :: rest else [letter, '|'] :: rest
    | cut => cut
  match (carryOutDots [] (cut.map (escape keptInPath))).dropWhile (· == "") with
  | [] => [""]
  | segments => segments

end BulkJobs.Url
