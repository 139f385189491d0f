import BulkJobs.Client.Builder
import BulkJobs.Proofs.Credentials
import BulkJobs.Proofs.Org.Origin
import Mathlib.Data.List.DropRight
import Mathlib.Data.List.Sigma

/-!
# What a builder resolves its settings to

The settings of a client are given one by one, in any order and any number of times, and what a
builder holds afterwards is the last value of each (`configured_eq`). A client is built when the
credentials are found and complete and the org can be connected, and then each of its settings is
the first that there is in a fixed order: what was given, what the credentials say, the default
(`build_configured_eq_ok_iff`). Whatever goes wrong is a matter of configuration (`kind_of_build`).
-/

set_option autoImplicit false
set_option relaxedAutoImplicit false

namespace BulkJobs

namespace Http.Proxy

/-- Whether a proxy has a host and a port, so that it takes effect. User name and password may be
missing. -/
structure IsComplete (proxy : Proxy) : Prop where
  host : ∃ host, proxy.host = some host ∧ Text.isBlankText host = false
  port : ∃ port, proxy.port = some port

theorem isSome_endpoint?_iff {proxy : Proxy} :
    proxy.endpoint?.isSome = true ↔ proxy.IsComplete := by
  obtain ⟨host, port, username, password⟩ := proxy
  cases host with
  | none => exact iff_of_false nofun fun ⟨⟨_, hhost, _⟩, _⟩ ↦ nomatch hhost
  | some host =>
    cases port with
    | none => exact iff_of_false nofun fun ⟨_, _, hport⟩ ↦ nomatch hport
    | some port =>
      have hcomplete : Proxy.IsComplete ⟨some host, some port, username, password⟩ ↔
          Text.isBlankText host = false :=
        ⟨fun ⟨⟨_, hhost, hfilled⟩, _⟩ ↦ Option.some.inj hhost ▸ hfilled,
          fun hfilled ↦ ⟨⟨host, rfl, hfilled⟩, port, rfl⟩⟩
      rw [hcomplete, ← Text.isEmpty_trim]
      simp only [endpoint?, Option.map_some]
      split_ifs with hempty <;> simp [hempty]

end Http.Proxy

namespace ClientBuilder

/-! ### Giving settings -/

/-- The settings of a client. Credentials are one setting, whether they are given or their source
is; name and password for the proxy are given together. -/
inductive Setting where
  | credentials
  | instanceUrl
  | apiVersion
  | proxyHost
  | proxyPort
  | proxyCredentials
  | http
  | timeout
  | pollInterval
  | pollTimeout
deriving DecidableEq

def Setting.Value : Setting → Type
  | .credentials => CredentialSource
  | .instanceUrl | .apiVersion | .proxyHost => String
  | .proxyPort => Nat
  | .proxyCredentials => String × String
  | .http => Http.Config
  | .timeout | .pollInterval | .pollTimeout => Span

/-- A setting and what it is given: one call of a builder. -/
abbrev Choice :=
  Σ setting : Setting, setting.Value

def choose (builder : ClientBuilder) : Choice → ClientBuilder
  | ⟨.credentials, source⟩ => builder.withCredentials source
  | ⟨.instanceUrl, url⟩ => builder.withInstanceUrl url
  | ⟨.apiVersion, version⟩ => builder.withApiVersion version
  | ⟨.proxyHost, host⟩ => builder.withProxyHost host
  | ⟨.proxyPort, port⟩ => builder.withProxyPort port
  | ⟨.proxyCredentials, given⟩ => builder.withProxyCredentials given.1 given.2
  | ⟨.http, config⟩ => builder.withHttp config
  | ⟨.timeout, timeout⟩ => builder.withTimeout timeout
  | ⟨.pollInterval, interval⟩ => builder.withPollInterval interval
  | ⟨.pollTimeout, timeout⟩ => builder.withPollTimeout timeout

/-- The builder after some choices, from the one that has none, in the order in which they are
made. -/
def configured (choices : List Choice) : ClientBuilder :=
  choices.foldl choose {}

/-- The last value that a setting was given by some choices, if it was given any. -/
def last (setting : Setting) (choices : List Choice) : Option setting.Value :=
  choices.reverse.dlookup setting

/-- The builder that holds some values, each as the last one that its setting was given. -/
def holding (value : (setting : Setting) → Option setting.Value) : ClientBuilder where
  credentials := (value .credentials).getD .ambient
  instanceUrl := value .instanceUrl
  apiVersion := value .apiVersion
  proxy :=
    { host := value .proxyHost
      port := value .proxyPort
      username := (value .proxyCredentials).map Prod.fst
      password := (value .proxyCredentials).map Prod.snd }
  http := value .http
  timeout := value .timeout
  polling :=
    { interval := (value .pollInterval).getD (.ofSeconds 2)
      timeout := value .pollTimeout }

section Choices

variable {setting : Setting} {value : (setting : Setting) → Option setting.Value}

/-- A choice replaces the value of its setting and no other, whatever was held before. -/
theorem choose_holding (given : setting.Value) :
    (holding value).choose ⟨setting, given⟩ =
      holding (Function.update value setting (some given)) := by
  cases setting <;> rfl

theorem last_append (choices : List Choice) (given : setting.Value) :
    (last · (choices ++ [⟨setting, given⟩])) =
      Function.update (last · choices) setting (some given) := by
  refine funext fun other ↦ ?_
  rw [last, List.reverse_append]
  by_cases hsame : other = setting
  · subst hsame
    rw [Function.update_self]
    exact List.dlookup_cons_eq ..
  · rw [Function.update_of_ne hsame]
    exact List.dlookup_cons_ne _ _ hsame

/-- A builder holds the last value of each setting (`last`), so how often and in which order
settings were given makes no difference. -/
theorem configured_eq (choices : List Choice) :
    configured choices = holding fun setting ↦ last setting choices := by
  induction choices using List.reverseRecOn with
  | nil => rfl
  | append_singleton choices choice ih =>
    rw [configured, List.foldl_append, ← configured, ih, last_append, ← choose_holding]
    rfl

end Choices

/-! ### What is built -/

section Building

variable {builder : ClientBuilder} {environment : Environment} {client : Client}

/-- A client is built from the credentials that are found in the environment, or given, when its org
can be connected with the settings of the builder. -/
theorem build_eq_ok_iff : builder.build environment = .ok client ↔
    ∃ credentials, builder.credentials.resolve environment = .ok credentials ∧
      ∃ org, Org.connect (builder.instanceUrl.getD credentials.instanceUrl)
          credentials.accessToken builder.chosenHttp = .ok org ∧
        ⟨org.withApiVersion (builder.chosenVersion credentials), builder.polling⟩ = client := by
  simp only [build, bind_eq_ok_iff, mapError_eq_ok_iff, pure_eq_ok_iff]

/-- Only the configuration keeps a client from being built: every failure (`hbuild`) is of that
kind. -/
theorem kind_of_build {failure : Failure} (hbuild : builder.build environment = .error failure) :
    ∃ detail, failure.kind = .config detail := by
  simp only [build, bind_eq_error_iff] at hbuild
  rcases hbuild with hresolve | ⟨credentials, -, hmapped | ⟨org, -, hdone⟩⟩
  · obtain ⟨own, -, rfl⟩ := exists_of_mapError hresolve
    exact ⟨_, rfl⟩
  · obtain ⟨own, hconnect, rfl⟩ := exists_of_mapError hmapped
    refine ⟨own.kind.message, ?_⟩
    obtain ⟨detail, hkind | hkind⟩ := Org.kind_of_connect hconnect
    · rw [Failure.ofHttp, hkind]
      rfl
    · rw [Failure.ofHttp, hkind]
      rfl
  · cases hdone

end Building

/-! ### What settings are resolved to -/

section Precedence

variable {builder : ClientBuilder} {credentials : Credentials} {version : String}
  {http : Http.Config}

/-- The API version is the first that is not blank, of the one given to the builder, the one of the
credentials and the default. -/
theorem chosenVersion_eq_iff : builder.chosenVersion credentials = version ↔
    IsFirstFilled [builder.apiVersion, some credentials.apiVersion, some defaultApiVersion]
      version := by
  have hfallback : Text.isBlankText defaultApiVersion = false := by decide
  have hchosen : builder.chosenVersion credentials =
      (([builder.apiVersion, some credentials.apiVersion].filterMap id).find?
        fun value ↦ !Text.isBlankText value).getD defaultApiVersion := by
    rw [chosenVersion]
    cases hown : Text.isBlankText credentials.apiVersion <;> cases builder.apiVersion with
    | none => simp [Option.filter, hown]
    | some given => cases hgiven : Text.isBlankText given <;> simp [Option.filter, hown, hgiven]
  rw [hchosen]
  exact (isFirstFilled_append_iff hfallback).symm

/-- The settings of the HTTP layer have the builder's time limit, if there is one, and its proxy, if
that is complete. -/
theorem eq_chosenHttp_iff : http = builder.chosenHttp ↔
    http = { builder.http.getD {} with
      timeout := builder.timeout.getD (builder.http.getD {}).timeout
      proxy := http.proxy } ∧
    (builder.proxy.IsComplete → http.proxy = some builder.proxy) ∧
    (¬builder.proxy.IsComplete → http.proxy = (builder.http.getD {}).proxy) := by
  rw [← Http.Proxy.isSome_endpoint?_iff]
  by_cases hproxy : builder.proxy.endpoint?.isSome
  · have hchosen : builder.chosenHttp = { builder.http.getD {} with
        timeout := builder.timeout.getD (builder.http.getD {}).timeout
        proxy := some builder.proxy } := by
      rw [chosenHttp, if_pos hproxy]
      cases builder.timeout <;> rfl
    constructor
    · rintro rfl
      rw [hchosen]
      exact ⟨rfl, fun _ ↦ rfl, fun hpartial ↦ absurd hproxy hpartial⟩
    · rintro ⟨hhttp, hcomplete, -⟩
      rw [hhttp, hcomplete hproxy, hchosen]
  · have hchosen : builder.chosenHttp = { builder.http.getD {} with
        timeout := builder.timeout.getD (builder.http.getD {}).timeout } := by
      rw [chosenHttp, if_neg hproxy]
      cases builder.timeout <;> rfl
    constructor
    · rintro rfl
      rw [hchosen]
      exact ⟨rfl, fun hcomplete ↦ absurd hcomplete hproxy, fun _ ↦ rfl⟩
    · rintro ⟨hhttp, -, hpartial⟩
      rw [hhttp, hpartial hproxy, hchosen]

end Precedence

/-- The source of credentials that was chosen last, or the environment, if none was. -/
def chosenSource (choices : List Choice) : CredentialSource :=
  (last .credentials choices).getD .ambient

/-- The proxy that choices describe, each part by the last value it was given. -/
def chosenProxy (choices : List Choice) : Http.Proxy where
  host := last .proxyHost choices
  port := last .proxyPort choices
  username := (last .proxyCredentials choices).map Prod.fst
  password := (last .proxyCredentials choices).map Prod.snd

/-- The settings of the HTTP layer that were chosen last, or the default ones. -/
def baseHttp (choices : List Choice) : Http.Config :=
  (last .http choices).getD ({} : Http.Config)

/-- Whether a client has the settings that choices and credentials are resolved to, each by its own
order of precedence. -/
structure Resolves (choices : List Choice) (credentials : Credentials) (client : Client) :
    Prop where
  instanceUrl : client.org.instanceUrl.toList =
    ((last .instanceUrl choices : Option String).getD
      credentials.instanceUrl).toList.rdropWhile (· == '/')
  accessToken : client.org.accessToken = credentials.accessToken
  apiVersion : ∃ version,
    IsFirstFilled [last .apiVersion choices, some credentials.apiVersion, some defaultApiVersion]
      version ∧
    client.org.apiVersion.toList = version.toList.dropWhile fun c ↦ c == 'v' || c == 'V'
  /-- Only the time limit and the proxy may differ from the base. -/
  http : client.org.http = { baseHttp choices with
    timeout := (last .timeout choices).getD (baseHttp choices).timeout
    proxy := client.org.http.proxy }
  proxy : (chosenProxy choices).IsComplete → client.org.http.proxy = some (chosenProxy choices)
  ownProxy : ¬(chosenProxy choices).IsComplete →
    client.org.http.proxy = (baseHttp choices).proxy
  polling : client.polling =
    { interval := (last .pollInterval choices).getD (.ofSeconds 2)
      timeout := last .pollTimeout choices }

section Resolving

variable {choices : List Choice} {credentials : Credentials} {client : Client}

/-- The org that a builder makes of credentials, before it has its API version. Slashes at the end
of the instance URL are gone. -/
def resolvedOrg (builder : ClientBuilder) (credentials : Credentials) : Org where
  instanceUrl := Text.trimEndChars ['/'] (builder.instanceUrl.getD credentials.instanceUrl)
  accessToken := credentials.accessToken
  apiVersion := defaultApiVersion
  http := builder.chosenHttp

/-- The client that a builder makes of credentials: the org with the chosen API version, and the
chosen way to wait. -/
def resolved (builder : ClientBuilder) (credentials : Credentials) : Client where
  org := (builder.resolvedOrg credentials).withApiVersion (builder.chosenVersion credentials)
  polling := builder.polling

theorem resolves_iff : Resolves choices credentials client ↔
    client = (configured choices).resolved credentials := by
  have hslash : (['/'].contains · : Char → Bool) = (· == '/') := by
    simp only [List.contains_cons, List.contains_nil, Bool.or_false]
  have hmark : (['v', 'V'].contains · : Char → Bool) = fun c ↦ c == 'v' || c == 'V' := by
    simp only [List.contains_cons, List.contains_nil, Bool.or_false]
  obtain ⟨⟨url, token, version, http⟩, polling⟩ := client
  rw [configured_eq, resolved, Client.mk.injEq, Org.withApiVersion, Org.mk.injEq, resolvedOrg,
    eq_chosenHttp_iff]
  constructor
  · rintro ⟨hurl, rfl, ⟨chosen, hchosen, hversion⟩, hhttp, hproxy, hown, rfl⟩
    refine ⟨⟨?_, rfl, ?_, hhttp, hproxy, hown⟩, rfl⟩
    · rw [← String.toList_inj, Text.trimEndChars, String.toList_ofList, hslash]
      exact hurl
    · rw [← String.toList_inj, Text.trimStartChars, String.toList_ofList, hmark,
        chosenVersion_eq_iff.mpr hchosen]
      exact hversion
  · rintro ⟨⟨rfl, rfl, rfl, hhttp, hproxy, hown⟩, rfl⟩
    have hchosen := chosenVersion_eq_iff.mp
      (Eq.refl ((holding fun setting ↦ last setting choices).chosenVersion credentials))
    refine ⟨?_, rfl, ⟨_, hchosen, ?_⟩, hhttp, hproxy, hown, rfl⟩
    · rw [Text.trimEndChars, String.toList_ofList, hslash]
      rfl
    · rw [Text.trimStartChars, String.toList_ofList, hmark]

theorem credentials_configured (choices : List Choice) :
    (configured choices).credentials = chosenSource choices := by
  rw [configured_eq]
  rfl

/-- The builder is built to a client when complete credentials are provided and the client that has
the settings of the choices can be used. -/
theorem build_configured_eq_ok_iff {environment : Environment} :
    (configured choices).build environment = .ok client ↔
      ∃ credentials, CredentialSource.Provides environment (chosenSource choices) credentials ∧
        credentials.IsComplete ∧ Resolves choices credentials client ∧ client.org.IsUsable := by
  rw [build_eq_ok_iff]
  refine exists_congr fun credentials ↦ ?_
  rw [credentials_configured, CredentialSource.resolve_eq_ok_iff, resolves_iff]
  constructor
  · rintro ⟨⟨hprovides, hcomplete⟩, org, hconnect, rfl⟩
    obtain ⟨rfl, husable⟩ := Org.connect_eq_ok_iff.mp hconnect
    exact ⟨hprovides, hcomplete, rfl, Org.isUsable_withApiVersion_iff.mpr husable⟩
  · rintro ⟨hprovides, hcomplete, rfl, husable⟩
    have hconnect := Org.connect_eq_ok_iff.mpr ⟨rfl, Org.isUsable_withApiVersion_iff.mp husable⟩
    exact ⟨⟨hprovides, hcomplete⟩, _, hconnect, rfl⟩

end Resolving

/-- A builder resolves its settings in a fixed order, however and how often they are given. What it
is built to depends on the last value of each setting, and on the variables of the environment when
the credentials are looked for there. It fails as a matter of configuration only, and otherwise the
client has the settings that the choices and the credentials are resolved to. -/
theorem build_configured (choices : List Choice) (environment : Environment) :
    (∀ choices' environment', (∀ setting, last setting choices' = last setting choices) →
      (chosenSource choices = .ambient → ∀ name ∈ Credentials.variableNames,
        List.lookup name environment' = List.lookup name environment) →
      (configured choices').build environment' = (configured choices).build environment) ∧
    (∀ failure, (configured choices).build environment = .error failure →
      ∃ detail, failure.kind = .config detail) ∧
    ∀ client, (configured choices).build environment = .ok client ↔
      ∃ credentials, CredentialSource.Provides environment (chosenSource choices) credentials ∧
        credentials.IsComplete ∧ Resolves choices credentials client ∧ client.org.IsUsable := by
  refine ⟨fun choices' environment' hsame hvariables ↦ ?_, fun _ ↦ kind_of_build,
    fun _ ↦ build_configured_eq_ok_iff⟩
  have hbuilder : configured choices' = configured choices := by
    rw [configured_eq, configured_eq]
    exact congrArg holding (funext hsame)
  have hresolve : (configured choices).credentials.resolve environment' =
      (configured choices).credentials.resolve environment := by
    rw [credentials_configured]
    exact CredentialSource.resolve_congr hvariables
  rw [hbuilder, build, build, hresolve]

example : (configured [⟨.apiVersion, "60.0"⟩, ⟨.proxyPort, (3128 : Nat)⟩, ⟨.apiVersion, " "⟩,
    ⟨.instanceUrl, "http://[::1]//"⟩,
    ⟨.credentials, .given ⟨"https://[::2]", "t", "v59.0"⟩⟩]).build [] =
    .ok { org := ⟨"http://[::1]", "t", "59.0", {}⟩ } := by
  decide +kernel

end ClientBuilder

end BulkJobs
