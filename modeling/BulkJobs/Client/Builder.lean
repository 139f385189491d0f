import BulkJobs.Client.Basic

/-!
# Building clients

Settings are collected in any order. What is given takes precedence over what the credentials say,
and that over defaults.
-/

set_option autoImplicit false
set_option relaxedAutoImplicit false

namespace BulkJobs

/-- Settings of a client to be built. Each may be missing, and `build` says what then counts. -/
structure ClientBuilder where
  credentials : CredentialSource := .ambient
  instanceUrl : Option String := none
  apiVersion : Option String := none
  proxy : Http.Proxy := {}
  http : Option Http.Config := none
  timeout : Option Span := none
  polling : Polling := {}
deriving DecidableEq, Repr

namespace ClientBuilder

def withCredentials (builder : ClientBuilder) (source : CredentialSource) : ClientBuilder :=
  { builder with credentials := source }

/-- Use an instance URL, whatever that of the credentials is. -/
def withInstanceUrl (builder : ClientBuilder) (url : String) : ClientBuilder :=
  { builder with instanceUrl := some url }

def withApiVersion (builder : ClientBuilder) (version : String) : ClientBuilder :=
  { builder with apiVersion := some version }

def withProxyHost (builder : ClientBuilder) (host : String) : ClientBuilder :=
  { builder with proxy := { builder.proxy with host := some host } }

def withProxyPort (builder : ClientBuilder) (port : Nat) : ClientBuilder :=
  { builder with proxy := { builder.proxy with port := some port } }

def withProxyCredentials (builder : ClientBuilder) (username password : String) : ClientBuilder :=
  { builder with
    proxy := { builder.proxy with username := some username, password := some password } }

def withHttp (builder : ClientBuilder) (config : Http.Config) : ClientBuilder :=
  { builder with http := some config }

def withTimeout (builder : ClientBuilder) (timeout : Span) : ClientBuilder :=
  { builder with timeout := some timeout }

def withPollInterval (builder : ClientBuilder) (interval : Span) : ClientBuilder :=
  { builder with polling := { builder.polling with interval } }

def withPollTimeout (builder : ClientBuilder) (timeout : Span) : ClientBuilder :=
  { builder with polling := { builder.polling with timeout := some timeout } }

/-- The API version: the one that is set, or that of the credentials, or the default one; a blank
one does not count. -/
def chosenVersion (builder : ClientBuilder) (credentials : Credentials) : String :=
  let given := builder.apiVersion.filter fun version ↦ !Text.isBlankText version
  let own := (some credentials.apiVersion).filter fun version ↦ !Text.isBlankText version
  (given <|> own).getD defaultApiVersion

/-- The settings of the HTTP layer: those that are set or the default ones, with the proxy of the
builder if it is complete, and with the time limit if there is one. -/
def chosenHttp (builder : ClientBuilder) : Http.Config :=
  let config := builder.http.getD {}
  let routed :=
    if builder.proxy.endpoint?.isSome then { config with proxy := some builder.proxy } else config
  match builder.timeout with
  | some timeout => { routed with timeout }
  | none => routed

/-- Build the client: the credentials are resolved first, and the org is connected with
`chosenVersion` and `chosenHttp`. -/
def build (builder : ClientBuilder) (environment : Environment) : Except Failure Client := do
  let credentials ← (builder.credentials.resolve environment).mapError Failure.ofCredentials
  let instanceUrl := builder.instanceUrl.getD credentials.instanceUrl
  let org ← (Org.connect instanceUrl credentials.accessToken builder.chosenHttp).mapError
    Failure.ofHttp
  return {
    org := org.withApiVersion (builder.chosenVersion credentials),
    polling := builder.polling }

end ClientBuilder

namespace Client

/-- A client with default settings for an instance URL and an access token. -/
def connect (instanceUrl accessToken : String) : Except Failure Client := do
  let org ← (Org.connect instanceUrl accessToken {}).mapError Failure.ofHttp
  return { org }

end Client

end BulkJobs
