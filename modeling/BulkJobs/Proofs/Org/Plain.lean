import BulkJobs.Client.Basic
import BulkJobs.Proofs.Org.Origin
import Mathlib.Data.Bool.AllAny

/-!
# Plain instance URLs

A plain instance URL is a scheme of the web and a place: nothing in it ends an authority, and
nothing in it is blank. Visible text behind it, from a slash on, is read as path, query and fragment
at the same place (`IsPlain.parse`), and a URL that is put together that way is asked for as it
stands (`IsPlain.url`). So the URLs of jobs lead to the segments they are written from, as far as
these are no dots (`IsPlain.parse_segments`).
-/

set_option autoImplicit false
set_option relaxedAutoImplicit false

namespace BulkJobs.Org

open Url (IsWebScheme IsUnbroken StartsBehind)

/-- Whether the instance URL of an org is a scheme of the web and a place, which nothing ends
(`IsUnbroken`) and no blank stands in, and is read as a URL. -/
structure IsPlain (org : Org) (scheme place : String) : Prop where
  web : IsWebScheme scheme
  written : org.instanceUrl = scheme ++ "://" ++ place
  unbroken : IsUnbroken place.toList
  visible : ∀ c ∈ place.toList, 0x20 < c.toNat
  reads : ∃ home, Url.parse org.instanceUrl = .ok home

variable {org : Org} {scheme place : String}

theorem scheme?_web (hweb : IsWebScheme scheme) (rest : List Char) :
    Url.scheme? (scheme.toList ++ ':' :: rest) = some (scheme, rest) := by
  have hhttp : Url.scheme? "http:".toList = some ("http", []) := by decide
  have hhttps : Url.scheme? "https:".toList = some ("https", []) := by decide
  rcases hweb with rfl | rfl
  · exact Url.scheme?_append hhttp rest
  · exact Url.scheme?_append hhttps rest

theorem visible_web (hweb : IsWebScheme scheme) : ∀ c ∈ scheme.toList, 0x20 < c.toNat := by
  rcases hweb with rfl | rfl <;> exact List.all_iff_forall_prop.mp (by decide)

namespace IsPlain

theorem toList_instanceUrl (hplain : org.IsPlain scheme place) :
    org.instanceUrl.toList = scheme.toList ++ ':' :: '/' :: '/' :: place.toList := by
  rw [hplain.written, String.toList_append, String.toList_append, List.append_assoc]
  rfl

theorem visible_instanceUrl (hplain : org.IsPlain scheme place) :
    ∀ c ∈ org.instanceUrl.toList, 0x20 < c.toNat := by
  intro c hc
  rw [hplain.toList_instanceUrl] at hc
  have hmarks : ∀ d ∈ [':', '/', '/'], 0x20 < d.toNat :=
    List.all_iff_forall_prop.mp (by decide)
  rcases List.mem_append.mp hc with hc | hc
  · exact visible_web hplain.web c hc
  · rcases List.mem_append.mp (show c ∈ [':', '/', '/'] ++ place.toList from hc) with hc | hc
    · exact hmarks c hc
    · exact hplain.visible c hc

/-- The place of a plain instance URL is read as an authority, and nothing behind it has a part in
that. -/
theorem readLocation (hplain : org.IsPlain scheme place) : ∃ authority, ∀ more : List Char,
    StartsBehind more →
      Url.readLocation scheme ('/' :: '/' :: place.toList ++ more) =
        .ok (some authority, more) := by
  obtain ⟨home, hhome⟩ := hplain.reads
  obtain ⟨scheme', rest, location, behind, hscheme, hlocation, -⟩ := Url.parse_eq_ok_iff.mp hhome
  rw [Url.clean_eq_self hplain.visible_instanceUrl, hplain.toList_instanceUrl,
    scheme?_web hplain.web] at hscheme
  cases hscheme
  obtain ⟨authority, c, front, rfl, hslashes, hauthority⟩ :=
    Url.exists_of_readLocation hplain.web hlocation
  have hplace : place.toList = c :: front := by
    rw [← hslashes]
    cases hcases : place.toList with
    | nil => rfl
    | cons d more =>
      have hd := hplain.unbroken d (by rw [hcases]; exact List.mem_cons_self)
      have hslash : Url.isSlash d = false := by
        simp only [Url.endsAuthority, Bool.or_eq_false_iff, Bool.true_and] at hd
        simp [Url.isSlash, hd]
      rw [List.dropWhile_cons_of_pos rfl, List.dropWhile_cons_of_pos rfl,
        List.dropWhile_cons_of_neg (by simp [hslash])]
  have hnone : behind = [] := by
    obtain ⟨written, port, heq, -, hbehind, -⟩ :=
      Url.exists_of_readAuthority hplain.web.isSpecial hauthority
    cases behind with
    | nil => rfl
    | cons d more =>
      have hd := hplain.unbroken d (by rw [hplace, heq]; simp)
      rw [hbehind d rfl] at hd
      cases hd
  refine ⟨authority, fun more hmore ↦ ?_⟩
  have hread := Url.readLocation_extend hplain.web hlocation (.inr hmore)
  rw [hnone, List.nil_append] at hread
  exact hread

/-- Visible text behind a plain instance URL, from a slash on (`StartsBehind`), is read as path,
query and fragment, with the authority of the instance. -/
theorem parse (hplain : org.IsPlain scheme place) : ∃ authority, ∀ after : String,
    StartsBehind after.toList → (∀ c ∈ after.toList, 0x20 < c.toNat) →
      Url.parse (org.instanceUrl ++ after) =
        .ok (Url.assemble scheme (some authority) after.toList) := by
  obtain ⟨authority, hread⟩ := hplain.readLocation
  refine ⟨authority, fun after hafter hvisible ↦ Url.parse_eq_ok_iff.mpr ?_⟩
  have hclean : Url.clean (org.instanceUrl ++ after).toList =
      scheme.toList ++ ':' :: ('/' :: '/' :: place.toList ++ after.toList) := by
    rw [String.toList_append, Url.clean_eq_self, hplain.toList_instanceUrl, List.append_assoc]
    · rfl
    · intro d hd
      rcases List.mem_append.mp hd with hd | hd
      · exact hplain.visible_instanceUrl d hd
      · exact hvisible d hd
  exact ⟨scheme, _, some authority, after.toList, by rw [hclean, scheme?_web hplain.web],
    hread after.toList hafter, rfl⟩

/-- A URL that is put together with a plain instance URL is asked for as it stands: it looks
absolute and is of the instance. -/
theorem url (hplain : org.IsPlain scheme place) {after : String}
    (hafter : StartsBehind after.toList) (hvisible : ∀ c ∈ after.toList, 0x20 < c.toNat) :
    org.url (org.instanceUrl ++ after) = org.instanceUrl ++ after := by
  obtain ⟨authority, hparse⟩ := hplain.parse
  have hhome : Url.parse org.instanceUrl = .ok (Url.assemble scheme (some authority) []) := by
    have hempty := hparse "" StartsBehind.nil (by simp)
    rw [String.append_empty] at hempty
    exact hempty
  have hlooks : looksAbsolute (org.instanceUrl ++ after) = true := by
    rw [looksAbsolute, String.toList_append, hplain.toList_instanceUrl]
    rcases hplain.web with rfl | rfl <;> simp
  have horigin : org.isOrigin (Url.assemble scheme (some authority) after.toList) = true := by
    rw [isOrigin, hhome]
    rcases hplain.web with rfl | rfl <;> simp [Url.assemble, Url.origin?, Url.defaultPort?]
  rw [Org.url, if_pos hlooks, hparse after hafter hvisible]
  simp only [horigin, if_true]

/-- A URL of plain segments at a plain instance leads to these segments, as far as they are no
dots. -/
theorem parse_segments (hplain : org.IsPlain scheme place) : ∃ authority,
    ∀ segments : List String, segments ≠ [] → (∀ part ∈ segments, Url.IsPlainSegment part) →
      Url.parse (org.url (org.instanceUrl ++ .ofList (UrlPath.segments segments).write)) = .ok
        { scheme, authority := some authority, path := .segments (Url.carryOutDots [] segments)
          query := none, fragment := none } := by
  obtain ⟨authority, hparse⟩ := hplain.parse
  refine ⟨authority, fun segments hsome hsegments ↦ ?_⟩
  have hchars : ∀ c ∈ (String.ofList (UrlPath.segments segments).write).toList,
      0x20 < c.toNat ∧ c ≠ '?' ∧ c ≠ '#' := by
    intro c hc
    rw [String.toList_ofList] at hc
    rcases Url.mem_write_segments hsegments hc with rfl | hc
    · decide
    · obtain ⟨hvisible, -, -, -, hquery, hfragment⟩ := Url.facts_of_isPlain hc
      exact ⟨hvisible, hquery, hfragment⟩
  have hafter : StartsBehind (String.ofList (UrlPath.segments segments).write).toList := by
    intro c hc
    rw [String.toList_ofList, Url.head?_write_segments hsome] at hc
    cases hc
    rfl
  rw [hplain.url hafter fun c hc ↦ (hchars c hc).1,
    hparse _ hafter fun c hc ↦ (hchars c hc).1]
  have hquery := Url.splitQuery_of_notMem (fun hc ↦ (hchars '?' hc).2.1 rfl)
    (fun hc ↦ (hchars '#' hc).2.2 rfl)
  have hpath : Url.readPath scheme true (UrlPath.segments segments).write =
      .segments (Url.carryOutDots [] segments) := by
    rw [← Url.pathSegments_write hsome hsegments]
    rcases hplain.web with rfl | rfl <;> rfl
  rw [Url.assemble, hquery, String.toList_ofList, Option.isSome_some, hpath]
  rfl

end IsPlain

/-! ### The URLs of jobs -/

/-- The segments that all jobs of an org are below, in the version of the API. -/
def jobsRoot (version : String) : List String :=
  ["services", "data", "v" ++ version, "jobs"]

/-- A URL below the jobs is written from segments if what is below the jobs is (`hbelow`). -/
theorem jobsUrl_eq {path : String} {below : List String}
    (hbelow : '/' :: (Text.trimStartChars ['/'] path).toList = (UrlPath.segments below).write) :
    org.jobsUrl path = org.instanceUrl ++
      .ofList (UrlPath.segments (jobsRoot org.apiVersion ++ below)).write := by
  have hroot : (UrlPath.segments (jobsRoot org.apiVersion ++ below)).write =
      "/services/data/v".toList ++ org.apiVersion.toList ++ "/jobs".toList ++
        (UrlPath.segments below).write := by
    simp [UrlPath.write, jobsRoot]
  rw [jobsUrl, hroot, ← hbelow]
  apply String.toList_inj.mp
  simp only [String.toList_append, String.toList_ofList, List.append_assoc]
  rfl

/-- An org at a short plain instance URL: the host is this machine. -/
def sample : Org :=
  { instanceUrl := "http://[::1]", accessToken := "t", apiVersion := defaultApiVersion, http := {} }

theorem sample_isPlain : sample.IsPlain "http" "[::1]" where
  web := .inl rfl
  written := rfl
  unbroken := List.all_iff_forall_prop.mp (by decide)
  visible := List.all_iff_forall_prop.mp (by decide)
  reads := by
    have hread : (Url.parse sample.instanceUrl).isOk = true := by decide +kernel
    cases hparse : Url.parse sample.instanceUrl with
    | error problem =>
      rw [hparse] at hread
      cases hread
    | ok home => exact ⟨home, rfl⟩

end BulkJobs.Org
