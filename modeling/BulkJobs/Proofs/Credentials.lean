import BulkJobs.Credentials
import BulkJobs.Proofs.Outcome

/-!
# Where credentials are found

Of several values the first one counts that is there and not blank (`IsFirstFilled`). Credentials
are as they are given, or each setting is that of the first of its variables that counts, without
blanks around it (`CredentialSource.Provides`). A source is resolved to what it provides, if that is
complete (`CredentialSource.resolve_eq_ok_iff`), and of the environment only the variables of the
settings matter (`CredentialSource.resolve_congr`).
-/

set_option autoImplicit false
set_option relaxedAutoImplicit false

namespace BulkJobs

/-! ### The first of several values -/

/-- Whether a value is the first of several that is there and not blank. Those before it do not
count. -/
inductive IsFirstFilled : List (Option String) → String → Prop where
  | here {value : String} {others : List (Option String)} : Text.isBlankText value = false →
      IsFirstFilled (some value :: others) value
  | later {other : Option String} {others : List (Option String)} {value : String} :
      (∀ text ∈ other, Text.isBlankText text = true) → IsFirstFilled others value →
      IsFirstFilled (other :: others) value

section Filled

variable {values : List (Option String)} {value fallback : String}

theorem find?_eq_some_iff_isFirstFilled :
    (values.filterMap id).find? (fun value ↦ !Text.isBlankText value) = some value ↔
      IsFirstFilled values value := by
  induction values with
  | nil => exact iff_of_false nofun nofun
  | cons first others ih =>
    cases first with
    | none =>
      rw [List.filterMap_cons_none rfl, ih]
      exact ⟨.later nofun, fun | .later _ hothers => hothers⟩
    | some text =>
      rw [List.filterMap_cons_some (f := id) rfl]
      cases hblank : Text.isBlankText text with
      | false =>
        rw [List.find?_cons_of_pos (by simp [hblank])]
        constructor
        · rintro ⟨⟩
          exact .here hblank
        · rintro (_ | ⟨hother, -⟩)
          · rfl
          · exact absurd (hother text rfl) (by simp [hblank])
      | true =>
        rw [List.find?_cons_of_neg (by simp [hblank]), ih]
        constructor
        · exact .later fun _ hother ↦ Option.some.inj hother ▸ hblank
        · rintro (hfilled | ⟨-, hothers⟩)
          · exact absurd hblank (by simp [hfilled])
          · exact hothers

/-- A value that is not blank (`hfallback`), behind several others, is the first when none of them
counts; so looking for the first with this value to fall back on finds it. -/
theorem isFirstFilled_append_iff (hfallback : Text.isBlankText fallback = false) :
    IsFirstFilled (values ++ [some fallback]) value ↔
      ((values.filterMap id).find? fun value ↦ !Text.isBlankText value).getD fallback = value := by
  have hlast : ([some fallback].filterMap id).find? (fun value ↦ !Text.isBlankText value) =
      some fallback := List.find?_cons_of_pos (by simp [hfallback])
  rw [← find?_eq_some_iff_isFirstFilled, List.filterMap_append, List.find?_append, hlast,
    Option.or_some, Option.some_inj]

end Filled

/-! ### Finding credentials -/

namespace Credentials

/-- The variables that credentials are found in, each setting with those of an older name behind the
others. -/
def variableNames : List String :=
  instanceUrlVariables ++ accessTokenVariables ++ apiVersionVariables

/-- What the variables with some names hold, in the order of the names. -/
def held (environment : Environment) (names : List String) : List (Option String) :=
  names.map fun name ↦ List.lookup name environment

/-- Whether the settings that are needed are there, instance URL and access token, and the URL is
one. -/
structure IsComplete (credentials : Credentials) : Prop where
  instanceUrl : credentials.instanceUrl ≠ ""
  accessToken : credentials.accessToken ≠ ""
  url : ∃ url, Url.parse credentials.instanceUrl = .ok url

variable {environment other : Environment} {names : List String} {value : String}
  {credentials found : Credentials}

theorem lookup?_eq (environment : Environment) (names : List String) :
    lookup? environment names =
      ((held environment names).filterMap id).find? fun value ↦ !Text.isBlankText value := by
  rw [held, List.filterMap_map]
  rfl

theorem require_eq_ok_iff : require environment names = .ok value ↔
    ∃ first, IsFirstFilled (held environment names) first ∧ Text.trim first = value := by
  rw [require, lookup?_eq]
  cases hfind : ((held environment names).filterMap id).find? (!Text.isBlankText ·) with
  | none =>
    refine iff_of_false nofun fun ⟨first, hfirst, _⟩ ↦ ?_
    rw [find?_eq_some_iff_isFirstFilled.mpr hfirst] at hfind
    cases hfind
  | some first =>
    constructor
    · rintro ⟨⟩
      exact ⟨first, find?_eq_some_iff_isFirstFilled.mp hfind, rfl⟩
    · rintro ⟨other, hother, rfl⟩
      cases hfind.symm.trans (find?_eq_some_iff_isFirstFilled.mpr hother)
      rfl

theorem validate_eq_ok_iff :
    validate credentials = .ok found ↔ credentials = found ∧ credentials.IsComplete := by
  rw [validate]
  split_ifs with hvalid
  · refine iff_of_false nofun fun ⟨_, hcomplete⟩ ↦ ?_
    simp [isValid, hcomplete.instanceUrl, hcomplete.accessToken] at hvalid
  · obtain ⟨hurl, htoken⟩ : credentials.instanceUrl ≠ "" ∧ credentials.accessToken ≠ "" := by
      simpa [isValid] using hvalid
    cases hparse : Url.parse credentials.instanceUrl with
    | error problem =>
      refine iff_of_false nofun fun ⟨_, hcomplete⟩ ↦ ?_
      obtain ⟨url, hreads⟩ := hcomplete.url
      cases hparse.symm.trans hreads
    | ok url =>
      constructor
      · rintro ⟨⟩
        exact ⟨rfl, hurl, htoken, url, hparse⟩
      · rintro ⟨rfl, -⟩
        rfl

end Credentials

namespace CredentialSource

/-- Whether a source provides credentials in an environment. Each setting is that of the first of
its variables that counts, and the API version need not be set. -/
inductive Provides (environment : Environment) : CredentialSource → Credentials → Prop where
  | given (credentials : Credentials) : Provides environment (.given credentials) credentials
  | ambient {url token version : String} :
      IsFirstFilled (Credentials.held environment Credentials.instanceUrlVariables) url →
      IsFirstFilled (Credentials.held environment Credentials.accessTokenVariables) token →
      IsFirstFilled (Credentials.held environment Credentials.apiVersionVariables ++
        [some defaultApiVersion]) version →
      Provides environment .ambient ⟨Text.trim url, Text.trim token, Text.trim version⟩

variable {environment other : Environment} {source : CredentialSource} {credentials : Credentials}

theorem resolve_eq_ok_iff : source.resolve environment = .ok credentials ↔
    Provides environment source credentials ∧ credentials.IsComplete := by
  cases source with
  | given given =>
    rw [resolve, Credentials.validate_eq_ok_iff]
    constructor
    · rintro ⟨rfl, hcomplete⟩
      exact ⟨.given given, hcomplete⟩
    · rintro ⟨⟨⟩, hcomplete⟩
      exact ⟨rfl, hcomplete⟩
  | ambient =>
    rw [resolve, Credentials.ofEnvironment]
    simp only [bind_eq_ok_iff, Credentials.require_eq_ok_iff, Credentials.validate_eq_ok_iff]
    constructor
    · rintro ⟨_, ⟨url, hurl, rfl⟩, _, ⟨token, htoken, rfl⟩, rfl, hcomplete⟩
      refine ⟨.ambient hurl htoken ((isFirstFilled_append_iff (by decide)).mpr ?_), hcomplete⟩
      rw [Credentials.lookup?_eq]
    · rintro ⟨_ | ⟨hurl, htoken, hversion⟩, hcomplete⟩
      refine ⟨_, ⟨_, hurl, rfl⟩, _, ⟨_, htoken, rfl⟩, ?_⟩
      rw [Credentials.lookup?_eq, (isFirstFilled_append_iff (by decide)).mp hversion]
      exact ⟨rfl, hcomplete⟩

/-- Of the environment only the variables of the settings matter (`h`), and none when credentials
are given. -/
theorem resolve_congr (h : source = .ambient → ∀ name ∈ Credentials.variableNames,
    List.lookup name other = List.lookup name environment) :
    source.resolve other = source.resolve environment := by
  cases source with
  | given => rfl
  | ambient =>
    have hlookup (names : List String) (hnames : names ⊆ Credentials.variableNames) :
        Credentials.lookup? other names = Credentials.lookup? environment names := by
      have hheld : Credentials.held other names = Credentials.held environment names :=
        List.map_congr_left fun name hname ↦ h rfl name (hnames hname)
      rw [Credentials.lookup?_eq, Credentials.lookup?_eq, hheld]
    simp only [resolve, Credentials.ofEnvironment, Credentials.require,
      hlookup Credentials.instanceUrlVariables (by decide),
      hlookup Credentials.accessTokenVariables (by decide),
      hlookup Credentials.apiVersionVariables (by decide)]

end CredentialSource

end BulkJobs
