import BulkJobs.Proofs.Client.Confinement
import BulkJobs.Proofs.Org.Reaching
import Mathlib.Data.List.Infix

/-!
# URLs of jobs are asked for as they are built

A URL is resolved twice: it is built behind the instance URL, and when it is asked for, its own URL
is taken once more. The two agree when the second step leaves the first one alone. Who connects is
judged by a reader of URLs, which overlooks the case of a scheme, blanks at the ends and missing
slashes; whether a URL is absolute is judged by its first letters, on which text behind the instance
URL has no influence (`looksAbsolute_append`). So a URL of jobs stays as it is exactly when the
instance URL has those letters and is still a URL with a slash behind it (`url_jobsUrl_iff`);
otherwise the whole URL is put behind the instance URL once more. A client of such an org sends
every request of an operation on jobs to the URL that was built for it (`jobs_urls_pass_iff`).
-/

set_option autoImplicit false
set_option relaxedAutoImplicit false

namespace BulkJobs

open Http.Exchange (Sends)

namespace Org

/-- Whether the instance URL starts like an absolute URL of the web, letter for letter, and is still
a URL with a slash behind it. -/
def IsLiteral (org : Org) : Prop :=
  looksAbsolute org.instanceUrl = true ∧ ∃ url, Url.parse (org.instanceUrl ++ "/") = .ok url

/-- Text behind a URL does not make it look absolute, as no start of the letters in question is a
URL. -/
theorem looksAbsolute_append {text : String} {url : Url} (hparse : Url.parse text = .ok url)
    (after : String) : looksAbsolute (text ++ after) = looksAbsolute text := by
  have hletters : ∀ letters : List Char,
      (∀ start ∈ letters.inits, (Url.parse (.ofList start)).isOk = false) →
      letters.isPrefixOf (text ++ after).toList = letters.isPrefixOf text.toList := by
    intro letters hnone
    rw [Bool.eq_iff_iff, List.isPrefixOf_iff_prefix, List.isPrefixOf_iff_prefix,
      String.toList_append]
    refine ⟨fun hbegins ↦ ?_, fun hbegins ↦ hbegins.trans (List.prefix_append _ _)⟩
    refine (List.prefix_or_prefix_of_prefix hbegins (List.prefix_append _ _)).resolve_right ?_
    intro hstart
    have hfail := hnone text.toList ((List.mem_inits _ _).mpr hstart)
    rw [String.ofList_toList, hparse] at hfail
    cases hfail
  rw [looksAbsolute, looksAbsolute, hletters _ (by decide +kernel), hletters _ (by decide +kernel)]

theorem instanceUrl_append_ne {org : Org} {home : Url} (hreach : org.Reaches home)
    (between text : String) : org.instanceUrl ++ between ++ text ≠ text := by
  intro heq
  have hlength : org.instanceUrl.length + between.length + text.length = text.length := by
    rw [← String.length_append, ← String.length_append, heq]
  have hnone : org.instanceUrl = "" := String.length_eq_zero_iff.mp (by omega)
  have hparse := hreach.1
  rw [hnone] at hparse
  cases hparse

/-- What is written behind the instance URL, from a slash on, is asked for as it stands exactly when
the instance URL is literal. -/
theorem url_append_iff {org : Org} {home : Url} (hreach : org.Reaches home) {after : String}
    (hafter : after.toList.head? = some '/') :
    org.url (org.instanceUrl ++ after) = org.instanceUrl ++ after ↔ org.IsLiteral := by
  have hbehind : ∀ text, org.instanceUrl ++ "/" ++ text ≠ text := instanceUrl_append_ne hreach "/"
  have hright : ∀ text, org.instanceUrl ++ text ≠ text := fun text ↦ by
    simpa using instanceUrl_append_ne hreach "" text
  have hliteral : (∃ url, Url.parse (org.instanceUrl ++ after) = .ok url) ↔
      ∃ url, Url.parse (org.instanceUrl ++ "/") = .ok url :=
    Url.exists_parse_append_iff hreach.1 hreach.2 hafter rfl
  rw [IsLiteral, ← hliteral, ← looksAbsolute_append hreach.1 after, url]
  by_cases hlooks : looksAbsolute (org.instanceUrl ++ after) = true
  · rw [if_pos hlooks]
    cases hparse : Url.parse (org.instanceUrl ++ after) with
    | error problem => simp [hbehind]
    | ok absolute =>
      obtain ⟨origin, horigin⟩ := hreach.exists_origin
      obtain ⟨hscheme, hauthority⟩ := Url.parse_append hreach.1 hreach.2 hafter hparse
      have hsame : org.isOrigin absolute = true := by
        rw [isOrigin, hreach.1]
        simp [Url.origin?_congr hscheme hauthority, horigin]
      simp [hsame, hlooks]
  · rw [if_neg hlooks]
    split_ifs
    · simp [hright, hlooks]
    · simp [hbehind, hlooks]

/-- At an org that reaches its instance (`hreach`), the URL of jobs is asked for as it is built
exactly when the instance URL is literal (`IsLiteral`). -/
theorem url_jobsUrl_iff {org : Org} {home : Url} (hreach : org.Reaches home) (path : String) :
    org.url (org.jobsUrl path) = org.jobsUrl path ↔ org.IsLiteral := by
  obtain ⟨after, hafter, hjobs⟩ := exists_jobsUrl org path
  rw [hjobs]
  exact url_append_iff hreach hafter

/-- An instance URL that is put together from a scheme and a place (`IsPlain`) is literal: it starts
with the scheme in small letters, and may be followed by a slash. -/
theorem IsPlain.isLiteral {org : Org} {scheme place : String} (hplain : org.IsPlain scheme place) :
    org.IsLiteral := by
  refine ⟨?_, ?_⟩
  · rw [looksAbsolute, hplain.toList_instanceUrl]
    rcases hplain.web with rfl | rfl <;> rfl
  · obtain ⟨authority, -, -, hparse⟩ := hplain.parse_slash
    obtain ⟨behind, -, hurl⟩ := hparse "/" rfl
    exact ⟨_, hurl⟩

theorem url_request (org : Org) (method : Http.Method) (path : String) :
    (org.request method path).url = org.url path :=
  rfl

end Org

/-! ### Operations on jobs -/

theorem Client.url_listingRequest (client : Client) (family : JobKind) :
    (client.listingRequest family).url = client.org.url (client.kindUrl family) :=
  rfl

namespace Call

variable {α : Type} {client : Client} {P : Http.Message → Prop}

/-- Whether a call is for URLs of jobs alone that the client builds: it follows no page that the
service names, and takes no path from the caller. -/
def IsOnJobs : {α : Type} → Call α → Prop
  | _, list _ => False
  | _, getJson _ _ => False
  | _, postJson _ _ _ => False
  | _, patchJson _ _ _ => False
  | _, deleteAt _ => False
  | _, _ => True

/-- An operation on jobs (`IsOnJobs`) sends only what URLs of jobs carry (`hjobs`), in whatever
state the network is. -/
theorem sends_jobs (hjobs : ∀ path, client.Carries P (client.org.jobsUrl path)) (call : Call α)
    (hcall : call.IsOnJobs) (clock : Nat → Span) : Sends P (call.run client clock) := by
  cases htarget : call.target? with
  | some target =>
    refine call.sends clock fun path hask ↦ ?_
    rw [hask target htarget, JobTarget.url]
    cases target.part with
    | none => exact hjobs _
    | some part => exact Client.carries_resourceUrl hjobs _ _ _
  | none =>
    cases call with
    | createIngest draft => exact Client.sends_createIngestJob draft (hjobs _)
    | createQuery draft => exact Client.sends_createQueryJob draft (hjobs _)
    | runIngest draft data => exact Client.sends_runIngest hjobs clock draft data
    | runQuery draft => exact Client.sends_runQuery hjobs clock draft
    | _ => first | exact False.elim hcall | cases htarget

end Call

/-- Whoever connects, with whatever API version: the URL of jobs is asked for as it is built exactly
when the instance URL is literal. Then every request for a URL of jobs is for that URL, that for
the first page of a listing included, and every message of an operation on jobs goes to a URL of
jobs, with parameters in its query perhaps. -/
theorem jobs_urls_pass_iff {instanceUrl token : String} {config : Http.Config} {org : Org}
    (hconnect : Org.connect instanceUrl token config = .ok org) (version : String)
    (polling : Polling) :
    (∀ path, (org.withApiVersion version).url ((org.withApiVersion version).jobsUrl path) =
      (org.withApiVersion version).jobsUrl path ↔ org.IsLiteral) ∧
    (org.IsLiteral → ∀ client : Client, client = { org := org.withApiVersion version, polling } →
      (∀ method path, (client.org.request method (client.org.jobsUrl path)).url =
        client.org.jobsUrl path) ∧
      (∀ family, (client.listingRequest family).url = client.kindUrl family) ∧
      ∀ {α : Type} (call : Call α), call.IsOnJobs → ∀ clock,
        Sends (fun message ↦ ∃ path written parameters,
            Url.parse (client.org.jobsUrl path) = .ok written ∧
              Http.Extends message.url written parameters)
          (call.run client clock)) := by
  obtain ⟨-, home, hreach⟩ := Org.reaches_of_connect hconnect
  have hiff : ∀ path, (org.withApiVersion version).url ((org.withApiVersion version).jobsUrl path) =
      (org.withApiVersion version).jobsUrl path ↔ org.IsLiteral :=
    fun path ↦ Org.url_jobsUrl_iff (hreach.withApiVersion version) path
  refine ⟨hiff, ?_⟩
  rintro hliteral client rfl
  have hpass := fun path ↦ (hiff path).mpr hliteral
  refine ⟨fun method path ↦ ?_, fun family ↦ ?_, fun call hcall clock ↦ ?_⟩
  · rw [Org.url_request]
    exact hpass path
  · rw [Client.url_listingRequest]
    exact hpass family.path
  · refine call.sends_jobs (fun path request hrequest message hprepare ↦ ?_) hcall clock
    obtain ⟨written, own, hparse, -, -, -, -, rfl⟩ := Http.Request.prepare_eq_ok_iff.mp hprepare
    rw [hrequest, hpass] at hparse
    exact ⟨path, written, request.query, hparse, request.destination_extends written⟩

theorem jobs_urls_pass_sample :
    Org.sample.IsLiteral ∧ ∀ path, (Org.sample.withApiVersion "v61.0").url
      ((Org.sample.withApiVersion "v61.0").jobsUrl path) =
        (Org.sample.withApiVersion "v61.0").jobsUrl path := by
  have hconnect : Org.connect "http://[::1]/" "t" {} = .ok Org.sample := by decide +kernel
  have hliteral : Org.sample.IsLiteral := Org.sample_isPlain.isLiteral
  obtain ⟨hiff, -⟩ := jobs_urls_pass_iff hconnect "v61.0" {}
  exact ⟨hliteral, fun path ↦ (hiff path).mpr hliteral⟩

/-- A scheme in capital letters is accepted, but then no URL of the instance looks absolute: that of
its jobs is put behind the instance URL. -/
theorem uppercase_scheme_is_put_behind : ∃ org,
    Org.connect "HTTP://na1.example.com" "token" {} = .ok org ∧
      org.jobsUrl "ingest" = "HTTP://na1.example.com/services/data/v62.0/jobs/ingest" ∧
      org.url (org.jobsUrl "ingest") = "HTTP://na1.example.com/" ++ org.jobsUrl "ingest" ∧
      org.url (org.jobsUrl "ingest") ≠ org.jobsUrl "ingest" := by
  refine ⟨{ instanceUrl := "HTTP://na1.example.com", accessToken := "token"
            apiVersion := defaultApiVersion, http := {} }, ?_⟩
  decide +kernel

end BulkJobs
