/-!
# Joining result pages

Every page of a result starts with the header. When pages are joined, the header of each page but
the first is left out, which is its first line.
-/

set_option autoImplicit false
set_option relaxedAutoImplicit false

namespace BulkJobs

/-- A page of results, as the text of its body and where the next page is. -/
structure ResultPage where
  csv : String
  locator : Option String
deriving DecidableEq, Repr

namespace ResultPage

/-- Whether no page follows. -/
def isLast (page : ResultPage) : Bool :=
  page.locator.isNone

end ResultPage

/-- The text after the first line break, nothing if there is none. -/
def afterFirstLine (text : List Char) : List Char :=
  (text.dropWhile (· != '\n')).drop 1

/-- Append a page to the pages joined so far: a line break is put between them where none is, and
the header of the page is left out. -/
def appendPage (joined page : String) : String :=
  if joined.isEmpty then page
  else
    match afterFirstLine page.toList with
    | [] => joined
    | body =>
      let separator := if joined.toList.getLast? == some '\n' then "" else "\n"
      joined ++ separator ++ .ofList body

/-- All pages as one text with a single header, that of the first page. -/
def joinPages (pages : List String) : String :=
  pages.foldl appendPage ""

end BulkJobs
