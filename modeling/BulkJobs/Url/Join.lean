import BulkJobs.Url.Parse

/-!
# References between URLs

A reply may name a URL that is short for another one: it leaves out what it has in common with the
URL that the reply comes from. The reference is completed to a text that is read as any other URL,
so that dot segments and characters that need escaping are treated alike.
-/

set_option autoImplicit false
set_option relaxedAutoImplicit false

namespace BulkJobs.Url

/-- The text of the scheme and the authority, which every reference from this URL shares unless it
has an authority of its own. -/
def writeSite (url : Url) : List Char :=
  url.scheme.toList ++ [':', '/', '/'] ++
    match url.authority with
    | some authority => authority.write
    | none => []

/-- The text of the path up to its last slash: what stands beside the URL is found behind it. -/
def writeFolder (url : Url) : List Char :=
  (url.path.write.reverse.dropWhile (· != '/')).reverse

/-- The text of the URL that a reference without a scheme stands for, seen from a URL of the web.
Two slashes start an authority, one slash a path, and a question mark or a number sign leaves the
path as it is; anything else stands in the folder of the URL. -/
def complete (base : Url) (reference : List Char) : List Char :=
  if (reference.takeWhile isSlash).length ≥ 2 then base.scheme.toList ++ ':' :: reference
  else
    match reference.head? with
    | none => base.writeSite ++ base.path.write ++ base.writeQuery
    | some '?' => base.writeSite ++ base.path.write ++ reference
    | some '#' => base.writeSite ++ base.path.write ++ base.writeQuery ++ reference
    | some c =>
      if isSlash c then base.writeSite ++ reference
      else base.writeSite ++ base.writeFolder ++ reference

/-- The URL that a text refers to from a URL of the web. A text with a scheme is a URL of its own,
but for one with the scheme of the base and no authority behind it. -/
def join (base : Url) (text : String) : Except UrlProblem Url :=
  let reference := clean text.toList
  match scheme? reference with
  | some (scheme, rest) =>
    if scheme == base.scheme && (rest.takeWhile isSlash).length < 2 then
      parse (.ofList (base.complete rest))
    else parse text
  | none => parse (.ofList (base.complete reference))

end BulkJobs.Url
