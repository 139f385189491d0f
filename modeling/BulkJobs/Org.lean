import BulkJobs.Credentials
import BulkJobs.Http.Traffic

/-!
# Orgs

An org is reached at its instance URL with an access token. Every URL that is asked for is brought
to the origin of the instance, so that the token does not leave it.
-/

set_option autoImplicit false
set_option relaxedAutoImplicit false

namespace BulkJobs

/-- An org and the way to talk to it: its instance URL, the access token, the version of the API and
the settings of the HTTP layer. -/
structure Org where
  /-- The instance URL, without slashes at its end. -/
  instanceUrl : String
  accessToken : String
  apiVersion : String
  http : Http.Config
deriving DecidableEq, Repr

namespace Org

/-- The org at an instance URL, if the URL and the token can be used with these settings. -/
def connect (instanceUrl accessToken : String) (http : Http.Config) : Except Http.Failure Org := do
  let instanceUrl := Text.trimEndChars ['/'] instanceUrl
  match Url.parse instanceUrl with
  | .error problem => throw (.dueTo (.invalidUrl problem.message))
  | .ok url =>
    if url.scheme != "http" && url.scheme != "https" then
      throw (.plain (.invalidUrl ("instance URL must be http or https, got " ++ url.scheme)))
    if Text.isBlankText accessToken then
      throw (.plain (.config "access token must not be empty"))
    http.check
    return { instanceUrl, accessToken, apiVersion := defaultApiVersion, http }

/-- The org with another API version; a leading `v` does not count. -/
def withApiVersion (org : Org) (version : String) : Org :=
  { org with apiVersion := Text.trimStartChars ['v', 'V'] version }

/-- Whether a URL has the origin of the instance. -/
def isOrigin (org : Org) (url : Url) : Bool :=
  match Url.parse org.instanceUrl with
  | .ok instanceUrl => instanceUrl.origin?.isSome && instanceUrl.origin? == url.origin?
  | .error _ => false

/-- Whether a text starts like an absolute URL of the web. -/
def looksAbsolute (path : String) : Bool :=
  "http://".toList.isPrefixOf path.toList || "https://".toList.isPrefixOf path.toList

/-- The URL of a path. An absolute URL stays as it is when it has the origin of the instance, and
otherwise only its path and query count; everything else is put behind the instance URL. -/
def url (org : Org) (path : String) : String :=
  if looksAbsolute path then
    match Url.parse path with
    | .ok absolute =>
      if org.isOrigin absolute then path
      else org.instanceUrl ++ absolute.pathText ++ .ofList absolute.writeQuery
    | .error _ => org.instanceUrl ++ "/" ++ path
  else if path.toList.head? == some '/' then org.instanceUrl ++ path
  else org.instanceUrl ++ "/" ++ path

/-- The URL of a path below the jobs of the org, in its API version. -/
def jobsUrl (org : Org) (path : String) : String :=
  org.instanceUrl ++ "/services/data/v" ++ org.apiVersion ++ "/jobs/" ++
    Text.trimStartChars ['/'] path

/-- An authorized request for the URL that `url` makes of a path. -/
def request (org : Org) (method : Http.Method) (path : String) : Http.Request :=
  { method, url := org.url path : Http.Request }.authorized org.accessToken

/-- Send a request with the settings of the org. -/
def execute (org : Org) (request : Http.Request) : Http.Exchange Http.Failure Http.Response :=
  Http.execute org.http request

/-- Fetch what is at a path, decoded from JSON. -/
def getJson {α : Type} (org : Org) (decode : Json.Decoder α) (path : String) :
    Http.Exchange Http.Failure α :=
  Http.executeJson org.http decode (org.request .get path)

/-- Post JSON to a path and decode the answer. -/
def postJson {α : Type} (org : Org) (decode : Json.Decoder α) (path : String) (body : Json) :
    Http.Exchange Http.Failure α :=
  Http.executeJson org.http decode ((org.request .post path).withJson body)

/-- Patch what is at a path with JSON and decode the answer. -/
def patchJson {α : Type} (org : Org) (decode : Json.Decoder α) (path : String) (body : Json) :
    Http.Exchange Http.Failure α :=
  Http.executeJson org.http decode ((org.request .patch path).withJson body)

/-- Delete what is at a path. What the reply holds does not matter. -/
def delete (org : Org) (path : String) : Http.Exchange Http.Failure Unit := do
  let _ ← org.execute (org.request .delete path)

/-- The org for diagnostics, without the access token. -/
def describe (org : Org) : String :=
  "ApiClient \x7b instance_url: " ++ Text.quoted org.instanceUrl ++
    ", access_token: \"[REDACTED]\", api_version: " ++ Text.quoted org.apiVersion ++ ", .. \x7d"

end Org

end BulkJobs
