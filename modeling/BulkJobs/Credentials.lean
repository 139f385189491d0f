import BulkJobs.Text.Blank
import BulkJobs.Text.Quoted
import BulkJobs.Url.Parse

/-!
# Credentials

An access token and the URL of the org it is for are either given or found in the environment, where
each setting goes by two names and blank values do not count.
-/

set_option autoImplicit false
set_option relaxedAutoImplicit false

namespace BulkJobs

/-- The API version used unless another one is asked for. -/
def defaultApiVersion : String := "62.0"

inductive CredentialFailureKind where
  | invalid (detail : String)
  | missingVariable (name : String)
deriving DecidableEq, Repr

/-- A failure to find credentials, with its kind and whether something of a lower layer is behind
it. -/
structure CredentialFailure where
  kind : CredentialFailureKind
  /-- Whether an error of a lower layer is behind it. -/
  caused : Bool
deriving DecidableEq, Repr

/-- The message of a failure to find credentials. -/
def CredentialFailure.message (failure : CredentialFailure) : String :=
  match failure.kind with
  | .invalid detail => "Invalid credentials: " ++ detail
  | .missingVariable name => "Environment variable not set: " ++ name

/-- What it takes to talk to an org: where it is, an access token, and perhaps the version of its
API. -/
structure Credentials where
  instanceUrl : String
  accessToken : String
  apiVersion : String
deriving DecidableEq, Repr

/-- The variables of the environment that are set, by name. -/
abbrev Environment :=
  List (String × String)

namespace Credentials

/-- Whether the settings that are needed are there: neither the URL nor the token is empty. -/
def isValid (credentials : Credentials) : Bool :=
  credentials.instanceUrl != "" && credentials.accessToken != ""

def withToken (credentials : Credentials) (token : String) : Credentials :=
  { credentials with accessToken := token }

/-- Check that the settings are there and that the URL is one. -/
def validate (credentials : Credentials) : Except CredentialFailure Credentials :=
  if !credentials.isValid then
    .error ⟨.invalid "instance URL and access token are required", false⟩
  else
    match Url.parse credentials.instanceUrl with
    | .ok _ => .ok credentials
    | .error problem =>
      .error ⟨.invalid ("instance URL is not a valid URL: " ++ problem.message), true⟩

/-- The names of the variable with the URL of the org, the one that counts first in front. -/
def instanceUrlVariables : List String := ["SF_INSTANCE_URL", "SALESFORCE_INSTANCE_URL"]

/-- The names of the variable with the access token, the one that counts first in front. -/
def accessTokenVariables : List String := ["SF_ACCESS_TOKEN", "SALESFORCE_ACCESS_TOKEN"]

/-- The names of the variable with the API version, the one that counts first in front. -/
def apiVersionVariables : List String := ["SF_API_VERSION", "SALESFORCE_API_VERSION"]

/-- The value of the first of several variables that is set and not blank. -/
def lookup? (environment : Environment) (names : List String) : Option String :=
  (names.filterMap fun name ↦ environment.lookup name).find? fun value ↦ !Text.isBlankText value

/-- The value of the first of several variables that is set and not blank, without blanks around
it. -/
def require (environment : Environment) (names : List String) : Except CredentialFailure String :=
  match lookup? environment names with
  | some value => .ok (Text.trim value)
  | none => .error ⟨.missingVariable (names.headD ""), false⟩

/-- The credentials in an environment, which must have a URL and a token. -/
def ofEnvironment (environment : Environment) : Except CredentialFailure Credentials := do
  let instanceUrl ← require environment instanceUrlVariables
  let accessToken ← require environment accessTokenVariables
  let apiVersion :=
    Text.trim ((lookup? environment apiVersionVariables).getD defaultApiVersion)
  validate { instanceUrl, accessToken, apiVersion }

/-- The credentials for diagnostics, without the access token. -/
def describe (credentials : Credentials) : String :=
  "SalesforceCredentials \x7b instance_url: " ++ Text.quoted credentials.instanceUrl ++
    ", access_token: \"[REDACTED]\", api_version: " ++ Text.quoted credentials.apiVersion ++ " \x7d"

end Credentials

/-- Where credentials come from: they are given, or the environment has them. -/
inductive CredentialSource where
  | given (credentials : Credentials)
  | ambient
deriving DecidableEq, Repr

/-- The credentials of a source. -/
def CredentialSource.resolve (source : CredentialSource) (environment : Environment) :
    Except CredentialFailure Credentials :=
  match source with
  | .given credentials => credentials.validate
  | .ambient => Credentials.ofEnvironment environment

end BulkJobs
