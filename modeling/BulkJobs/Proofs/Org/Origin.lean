import BulkJobs.Org
import BulkJobs.Proofs.Http.Preparing
import BulkJobs.Proofs.Http.Sending
import BulkJobs.Proofs.Url.Path

/-!
# The origin of an org

An org that is connected has an instance URL of the web (`connect_eq_ok_iff`). The URL of a path is
then the path itself, if that is a URL of the origin of the instance, or the instance URL with text
behind it from a slash on (`url_cases`). As such text has no part in scheme and authority, the URL
of any path is of the origin of the instance, if it is a URL at all (`url_origin`), and so is every
message that a request of the org becomes (`prepare_origin`).
-/

set_option autoImplicit false
set_option relaxedAutoImplicit false

namespace BulkJobs.Org

open Url (IsWebScheme)

/-- Whether the instance URL of an org is read as this URL, and the URL is one of the web. -/
def Reaches (org : Org) (home : Url) : Prop :=
  Url.parse org.instanceUrl = .ok home ∧ IsWebScheme home.scheme

/-- Whether requests can be made to an org: its instance URL is one of the web, its token is not
blank, and its settings can be used (`Config.check`). -/
structure IsUsable (org : Org) : Prop where
  reaches : ∃ home, org.Reaches home
  token : Text.isBlankText org.accessToken = false
  http : org.http.check = .ok ()

section Connect

variable {instanceUrl token : String} {config : Http.Config} {org : Org}

/-- Connecting to a text that is read as a URL (`hparse`) checks the scheme of the URL, the token
and the settings, in this order. -/
theorem connect_of_parse {home : Url}
    (hparse : Url.parse (Text.trimEndChars ['/'] instanceUrl) = .ok home) :
    connect instanceUrl token config =
      if home.scheme != "http" && home.scheme != "https" then
        .error (.plain (.invalidUrl ("instance URL must be http or https, got " ++ home.scheme)))
      else if Text.isBlankText token then
        .error (.plain (.config "access token must not be empty"))
      else config.check.map fun _ ↦
        ⟨Text.trimEndChars ['/'] instanceUrl, token, defaultApiVersion, config⟩ := by
  simp only [connect, hparse]
  split_ifs
  · rfl
  · rfl
  · rfl
  · cases config.check <;> rfl

/-- Connecting succeeds exactly with the org at the given URL, its slashes at the end trimmed, when
that org `IsUsable`. -/
theorem connect_eq_ok_iff : connect instanceUrl token config = .ok org ↔
    org = ⟨Text.trimEndChars ['/'] instanceUrl, token, defaultApiVersion, config⟩ ∧
      org.IsUsable := by
  cases hparse : Url.parse (Text.trimEndChars ['/'] instanceUrl) with
  | error problem =>
    simp only [connect, hparse]
    refine iff_of_false nofun ?_
    rintro ⟨rfl, ⟨home, hreads, -⟩, -, -⟩
    cases hparse.symm.trans hreads
  | ok home =>
    have hweb : (home.scheme != "http" && home.scheme != "https") = false ↔
        IsWebScheme home.scheme := by
      simp [IsWebScheme, or_iff_not_imp_left]
    rw [connect_of_parse hparse]
    constructor
    · intro hconnect
      split_ifs at hconnect with hscheme hblank
      cases hcheck : config.check with
      | error failure =>
        rw [hcheck] at hconnect
        cases hconnect
      | ok _ =>
        rw [hcheck] at hconnect
        cases hconnect
        exact ⟨rfl, ⟨home, hparse, hweb.mp (Bool.not_eq_true _ ▸ hscheme)⟩,
          Bool.not_eq_true _ ▸ hblank, hcheck⟩
    · rintro ⟨rfl, ⟨_, hreads, hscheme⟩, hblank, hcheck⟩
      cases hparse.symm.trans hreads
      rw [hweb.mpr hscheme, hblank, hcheck]
      rfl

/-- Whoever connects (`hconnect`) has for an instance URL the given one up to slashes at its end,
and that `Reaches` a URL of the web. -/
theorem reaches_of_connect (hconnect : connect instanceUrl token config = .ok org) :
    org.instanceUrl = Text.trimEndChars ['/'] instanceUrl ∧ ∃ home, org.Reaches home := by
  obtain ⟨rfl, husable⟩ := connect_eq_ok_iff.mp hconnect
  exact ⟨rfl, husable.reaches⟩

/-- What keeps an org from being connected (`hconnect`) is its URL or its settings, and no other
kind of failure. -/
theorem kind_of_connect {failure : Http.Failure}
    (hconnect : connect instanceUrl token config = .error failure) :
    ∃ detail, failure.kind = .invalidUrl detail ∨ failure.kind = .config detail := by
  cases hparse : Url.parse (Text.trimEndChars ['/'] instanceUrl) with
  | error problem =>
    simp only [connect, hparse] at hconnect
    cases hconnect
    exact ⟨_, .inl rfl⟩
  | ok home =>
    rw [connect_of_parse hparse] at hconnect
    split_ifs at hconnect with hscheme hblank
    · cases hconnect
      exact ⟨_, .inl rfl⟩
    · cases hconnect
      exact ⟨_, .inr rfl⟩
    · rw [Http.Config.check] at hconnect
      split_ifs at hconnect
      · cases hconnect
      · cases hconnect
        exact ⟨_, .inr rfl⟩

end Connect

theorem isUsable_withApiVersion_iff {org : Org} {version : String} :
    (org.withApiVersion version).IsUsable ↔ org.IsUsable :=
  ⟨fun husable ↦ ⟨husable.reaches, husable.token, husable.http⟩,
    fun husable ↦ ⟨husable.reaches, husable.token, husable.http⟩⟩

theorem Reaches.withApiVersion {org : Org} {home : Url} (hreach : org.Reaches home)
    (version : String) : (org.withApiVersion version).Reaches home := hreach

/-- Slashes at the end of an instance URL (`htrim`) make no difference to the origin of what it is
read as (`hgiven`). -/
theorem Reaches.origin_of_trimmed {org : Org} {home given : Url} (hreach : org.Reaches home)
    {instanceUrl : String} (htrim : org.instanceUrl = Text.trimEndChars ['/'] instanceUrl)
    (hgiven : Url.parse instanceUrl = .ok given) : given.origin? = home.origin? := by
  obtain ⟨slashes, heq, hslash⟩ :=
    Text.exists_eq_dropEndWhile_append (['/'].contains ·) instanceUrl.toList
  have hwhole : instanceUrl = org.instanceUrl ++ .ofList slashes := by
    rw [htrim, Text.trimEndChars, ← String.ofList_append, ← heq, String.ofList_toList]
  cases slashes with
  | nil =>
    rw [hwhole, String.ofList_nil, String.append_empty, hreach.1] at hgiven
    cases hgiven
    rfl
  | cons c rest =>
    have hc : c = '/' := by simpa using hslash c List.mem_cons_self
    rw [hwhole] at hgiven
    obtain ⟨hscheme, hauthority⟩ :=
      Url.parse_append hreach.1 hreach.2 (by rw [String.toList_ofList, hc]; rfl) hgiven
    exact Url.origin?_congr hscheme hauthority

/-! ### The URL of a path -/

/-- A text that looks absolute (`hlooks`) and is read as a URL (`hparse`) is one of the web. -/
theorem isWebScheme_of_looksAbsolute {path : String} (hlooks : looksAbsolute path = true)
    {url : Url} (hparse : Url.parse path = .ok url) : IsWebScheme url.scheme := by
  obtain ⟨scheme, rest, location, behind, hscheme, -, rfl⟩ := Url.parse_eq_ok_iff.mp hparse
  have hstart : ∀ front : List Char, Url.clean front = front →
      (front ++ ['/', '/']).isPrefixOf path.toList = true →
      ∃ more, Url.clean path.toList = front ++ more := by
    intro front hfront hprefix
    obtain ⟨after, hafter⟩ := List.isPrefixOf_iff_prefix.mp hprefix
    obtain ⟨blanks, more, hclean, -⟩ :=
      Url.clean_append_cons front ('/' :: after) (by decide : 0x20 < '/'.toNat)
    refine ⟨blanks ++ '/' :: more, ?_⟩
    rw [← hafter, List.append_assoc]
    rw [hfront, List.append_assoc] at hclean
    exact hclean
  unfold looksAbsolute at hlooks
  rcases Bool.or_eq_true_iff.mp hlooks with hhttp | hhttps
  · obtain ⟨more, hclean⟩ := hstart "http:".toList (by decide) hhttp
    have hhead : Url.scheme? "http:".toList = some ("http", []) := by decide
    rw [hclean, Url.scheme?_append hhead] at hscheme
    cases hscheme
    exact .inl rfl
  · obtain ⟨more, hclean⟩ := hstart "https:".toList (by decide) hhttps
    have hhead : Url.scheme? "https:".toList = some ("https", []) := by decide
    rw [hclean, Url.scheme?_append hhead] at hscheme
    cases hscheme
    exact .inr rfl

/-- The path of a URL of the web starts with a slash, also where its text has none. -/
theorem head?_pathText {text : String} {url : Url} (hparse : Url.parse text = .ok url)
    (hweb : IsWebScheme url.scheme) : url.pathText.toList.head? = some '/' := by
  obtain ⟨scheme, rest, location, behind, -, -, rfl⟩ := Url.parse_eq_ok_iff.mp hparse
  change IsWebScheme scheme at hweb
  have hpath : (Url.assemble scheme location behind).path =
      .segments (Url.pathSegments true (Url.splitQuery behind).1) := by
    rcases hweb with rfl | rfl <;> rfl
  rw [Url.pathText, hpath, String.toList_ofList]
  exact Url.head?_write_segments (Url.pathSegments_ne_nil true _)

/-- The URL of a path is the path itself, which is then a URL of the origin of the instance, or the
instance URL with text behind it from a slash on. -/
theorem url_cases {org : Org} {home : Url} (hreach : org.Reaches home) (path : String) :
    (org.url path = path ∧ ∃ url, Url.parse path = .ok url ∧ url.origin? = home.origin?) ∨
      ∃ after : String, after.toList.head? = some '/' ∧
        org.url path = org.instanceUrl ++ after := by
  have hslash : ∀ text : String, ∃ after : String, after.toList.head? = some '/' ∧
      org.instanceUrl ++ "/" ++ text = org.instanceUrl ++ after := by
    intro text
    exact ⟨"/" ++ text, by rw [String.toList_append]; rfl, String.append_assoc⟩
  unfold url
  by_cases hlooks : looksAbsolute path = true
  · rw [if_pos hlooks]
    cases hparse : Url.parse path with
    | error problem => exact .inr (hslash path)
    | ok absolute =>
      by_cases horigin : org.isOrigin absolute = true
      · left
        simp only [horigin, if_true]
        refine ⟨trivial, absolute, rfl, ?_⟩
        rw [isOrigin, hreach.1] at horigin
        simp only [Bool.and_eq_true, beq_iff_eq] at horigin
        exact horigin.2.symm
      · right
        simp only [horigin]
        have hhead := head?_pathText hparse (isWebScheme_of_looksAbsolute hlooks hparse)
        refine ⟨absolute.pathText ++ .ofList absolute.writeQuery, ?_, String.append_assoc⟩
        rw [String.toList_append, List.head?_append, hhead]
        rfl
  · rw [if_neg hlooks]
    by_cases hhead : (path.toList.head? == some '/') = true
    · rw [if_pos hhead]
      exact .inr ⟨path, beq_iff_eq.mp hhead, rfl⟩
    · rw [if_neg hhead]
      exact .inr (hslash path)

/-- What the URL of a path is read as (`hparse`) is of the origin of the instance, whatever the path
is. -/
theorem url_origin {org : Org} {home : Url} (hreach : org.Reaches home) {path : String}
    {url : Url} (hparse : Url.parse (org.url path) = .ok url) : url.origin? = home.origin? := by
  rcases url_cases hreach path with ⟨hself, other, hother, horigin⟩ | ⟨after, hafter, hurl⟩
  · rw [hself, hother] at hparse
    cases hparse
    exact horigin
  · rw [hurl] at hparse
    obtain ⟨hscheme, hauthority⟩ := Url.parse_append hreach.1 hreach.2 hafter hparse
    exact Url.origin?_congr hscheme hauthority

/-! ### Requests -/

/-- A request for a URL of the org (`htarget`) becomes no message to any other origin than that of
its instance (`hreach`). -/
theorem prepare_origin {org : Org} {home : Url} (hreach : org.Reaches home) {path : String}
    {request : Http.Request} (htarget : request.url = org.url path) {config : Http.Config}
    {message : Http.Message} (hprepare : request.prepare config = .ok message) :
    message.url.origin? = home.origin? := by
  obtain ⟨written, own, hparse, -, -, -, -, rfl⟩ :=
    Http.Request.prepare_eq_ok_iff.mp hprepare
  rw [htarget] at hparse
  rw [Http.Request.messageTo, Http.Request.destination_origin?]
  exact url_origin hreach hparse

end BulkJobs.Org
