import BulkJobs.Proofs.Org.Plain
import BulkJobs.Proofs.Text.Form

/-!
# What can be asked for at a plain instance

Any text behind a plain instance URL, from a slash on, is path, query and fragment at the same
place, blanks and all (`IsPlain.parse_slash`). So the URL of any path can be read and has a host
(`IsPlain.exists_written`), asking for the URL of a URL changes nothing (`IsPlain.url_url`), and a
request whose headers are fit becomes a message exactly when a request line can carry its URL
(`IsPlain.prepare_eq`).
-/

set_option autoImplicit false
set_option relaxedAutoImplicit false

namespace BulkJobs.Url

open Text

/-- Cleaning leaves visible text (`hbefore`) alone where it goes on with a character that is no
blank (`hc`). -/
theorem clean_visible_append_cons {before : List Char} (hbefore : ∀ d ∈ before, 0x20 < d.toNat)
    {c : Char} (hc : 0x20 < c.toNat) (after : List Char) :
    ∃ rest, rest.Sublist after ∧ clean (before ++ c :: after) = before ++ c :: rest := by
  have hblank : ∀ d : Char, 0x20 < d.toNat → decide (d.toNat ≤ 0x20) = false := fun d hd ↦ by
    simpa using hd
  have hfront : (before ++ c :: after).dropWhile (fun d ↦ decide (d.toNat ≤ 0x20)) =
      before ++ c :: after := by
    cases before with
    | nil => exact List.dropWhile_cons_of_neg (by simp [hc])
    | cons d before => exact List.dropWhile_cons_of_neg (by simp [hbefore d List.mem_cons_self])
  have hkept : before.filter (fun d ↦ d != '\t' && d != '\n' && d != '\r') = before :=
    List.filter_eq_self.mpr fun d hd ↦ not_stripped (hbefore d hd)
  refine ⟨(dropEndWhile (fun d ↦ decide (d.toNat ≤ 0x20)) after).filter fun d ↦
    d != '\t' && d != '\n' && d != '\r', ?_, ?_⟩
  · exact List.filter_sublist.trans (List.rdropWhile_prefix _ after).sublist
  · rw [clean, stripWhile, hfront, dropEndWhile_append_cons _ _ (hblank c hc),
      List.filter_append, hkept, List.filter_cons, if_pos (not_stripped hc)]

/-! ### Hosts -/

theorem ne_nil_of_parse {text name : List Char} (hname : Domain.parse text = .ok name) :
    name ≠ [] := by
  rintro rfl
  unfold Domain.parse at hname
  simp only at hname
  split at hname <;> simp_all

/-- No host that `specialHost` reads is empty. -/
theorem isEmpty_of_specialHost {text : List Char} {host : Host}
    (hhost : specialHost text = .ok host) : host.isEmpty = false := by
  unfold specialHost at hhost
  split_ifs at hhost with hbracket
  · unfold bracketed at hhost
    split_ifs at hhost
    cases hpieces : Ipv6.parse (text.drop 1).dropLast with
    | error problem =>
      rw [hpieces] at hhost
      cases hhost
    | ok pieces =>
      rw [hpieces] at hhost
      cases hhost
      rfl
  · cases hname : Domain.parse text with
    | error problem =>
      rw [hname] at hhost
      cases hhost
    | ok name =>
      rw [hname] at hhost
      change (if Ipv4.endsInNumber name = true then Host.ipv4 <$> Ipv4.parse name
        else .ok (.domain (.ofList name))) = .ok host at hhost
      split_ifs at hhost
      · cases haddress : Ipv4.parse name with
        | error problem =>
          rw [haddress] at hhost
          cases hhost
        | ok address =>
          rw [haddress] at hhost
          cases hhost
          rfl
      · cases hhost
        simpa [Host.isEmpty, String.ofList_eq_empty_iff] using ne_nil_of_parse hname

theorem specialHost_of_readHost {asked : Bool} {text : List Char} {host : Host}
    (hhost : readHost true asked text = .ok host) : specialHost text = .ok host := by
  unfold readHost at hhost
  by_cases hempty : (true && text.isEmpty) = true
  · rw [if_pos hempty] at hhost
    cases hhost
  · rw [if_neg hempty] at hhost
    cases hspecial : specialHost text with
    | error problem =>
      simp only [if_true, hspecial] at hhost
      cases hhost
    | ok found =>
      simp only [if_true, hspecial] at hhost
      change (if (found.isEmpty && asked) = true then Except.error UrlProblem.emptyHost
        else .ok found) = .ok host at hhost
      split_ifs at hhost
      exact hhost

theorem isEmpty_of_readAuthority {scheme : String} (hspecial : isSpecialScheme scheme = true)
    {text behind : List Char} {authority : Authority}
    (hread : readAuthority scheme text = .ok (authority, behind)) :
    authority.host.isEmpty = false := by
  obtain ⟨written, port, -, hwritten, -, hplain⟩ := exists_of_readAuthority hspecial hread
  have heq := readAuthority_eq hspecial hwritten StartsBehind.nil
  rw [List.append_nil, hplain] at heq
  cases hhost : readHost true (!(userInfo ((splitLastAt written).1.getD [])).1.isEmpty ||
      (userInfo ((splitLastAt written).1.getD [])).2.isSome)
      (splitHost true false (splitLastAt written).2).1 with
  | error problem =>
    simp only [hhost] at heq
    cases heq
  | ok host =>
    simp only [hhost] at heq
    cases hport : readPortBehind scheme host
        ((splitHost true false (splitLastAt written).2).2 ++ []) with
    | error problem =>
      change Except.ok _ = (readPortBehind scheme host _).bind _ at heq
      rw [hport] at heq
      cases heq
    | ok read =>
      change Except.ok _ = (readPortBehind scheme host _).bind _ at heq
      rw [hport] at heq
      cases heq
      exact isEmpty_of_specialHost (specialHost_of_readHost hhost)

end BulkJobs.Url

/-! ### Headers -/

namespace BulkJobs.Http

theorem isValue_append {before after : String} (hbefore : Header.isValue before = true)
    (hafter : Header.isValue after = true) : Header.isValue (before ++ after) = true := by
  rw [Header.isValue, String.toList_append, List.all_append, Bool.and_eq_true]
  exact ⟨hbefore, hafter⟩

theorem isValue_encode (bytes : Octets) :
    Header.isValue (.ofList (Base64.encode bytes)) = true := by
  have hletter : ∀ n, Header.isValue (.ofList [Base64.letter n]) = true := by
    intro n
    by_cases hn : n < 64
    · revert n
      decide +kernel
    · have hslash : Base64.letter n = '/' := by
        have hlast : (n == 62) = false := by simpa using by omega
        rw [Base64.letter, if_neg (by omega), if_neg (by omega), if_neg (by omega), hlast]
        rfl
      rw [hslash]
      decide
  simp only [Header.isValue, String.toList_ofList, List.all_cons, List.all_nil, Bool.and_true]
    at hletter ⊢
  fun_induction Base64.encode bytes with
  | case1 => rfl
  | case2 a n => simp only [List.all_cons, hletter]; decide
  | case3 a b n => simp only [List.all_cons, hletter]; decide
  | case4 a b c rest n ih => simp only [List.all_cons, hletter, ih]; decide

theorem isSome_mapM {α β : Type} {f : α → Option β} {items : List α}
    (h : ∀ item ∈ items, (f item).isSome) : (items.mapM f).isSome := by
  induction items with
  | nil => rfl
  | cons item items ih =>
    obtain ⟨value, hvalue⟩ := Option.isSome_iff_exists.mp (h item List.mem_cons_self)
    obtain ⟨values, hvalues⟩ :=
      Option.isSome_iff_exists.mp (ih fun other hother ↦ h other (List.mem_cons_of_mem _ hother))
    rw [List.mapM_cons, hvalue, hvalues]
    rfl

/-- A request whose token (`htoken`) and headers (`hheaders`) are fit to be sent has fit headers of
its own, with and without a name and password in its URL. -/
theorem isSome_ownHeaders {request : Request} {token : String}
    (hbearer : request.bearer = some token) (htoken : Header.isValue token = true)
    (hheaders : ∀ header ∈ request.headers, (Header.make? header.1 header.2).isSome)
    (credentials : Option (String × String)) : (request.ownHeaders? credentials).isSome := by
  have hauthorization : ∀ value, Header.isValue value = true →
      (Header.make? "Authorization" value).isSome := by
    intro value hvalue
    have hname : Header.isName "Authorization" = true := by decide +kernel
    rw [Header.make?, hname, hvalue]
    rfl
  have hbasic : ∀ name password, Header.isValue (basicCredentials name password) = true :=
    fun name password ↦ isValue_append (by decide) (isValue_encode _)
  refine isSome_mapM ?_
  rw [hbearer]
  rintro ⟨name, value⟩ hmem
  simp only [List.mem_append, or_assoc] at hmem
  rcases hmem with hmem | hmem | hmem
  · cases credentials with
    | none => cases hmem
    | some pair =>
      obtain ⟨rfl, rfl⟩ := Prod.mk.inj (List.mem_singleton.mp hmem)
      exact hauthorization _ (hbasic pair.1 pair.2)
  · obtain ⟨rfl, rfl⟩ := Prod.mk.inj (List.mem_singleton.mp hmem)
    exact hauthorization _ (isValue_append (by decide) htoken)
  · exact hheaders (name, value) hmem

/-- Whether a URL leads where another one does, with parameters behind those of the query that it is
written with. -/
structure Extends (url written : Url) (parameters : List (String × String)) : Prop where
  origin : url.origin? = written.origin?
  path : url.path = written.path
  query : Form.pairs (url.query.getD "").toList =
    Form.pairs (written.query.getD "").toList ++ parameters
  unchanged : parameters = [] → url.query = written.query
  fragment : url.fragment = written.fragment

theorem Request.destination_query (request : Request) (written : Url) :
    (request.destination written).query =
      if request.query.isEmpty then written.query
      else some (.ofList (Form.append (written.query.getD "").toList request.query)) := by
  unfold destination addQuery
  cases (urlCredentials? written).isSome <;> cases request.query.isEmpty <;> rfl

theorem Request.destination_fragment (request : Request) (written : Url) :
    (request.destination written).fragment = written.fragment := by
  unfold destination addQuery
  cases (urlCredentials? written).isSome <;> cases request.query.isEmpty <;> rfl

/-- The destination of a request leads where its URL does (`Extends`), with the parameters of the
request. -/
theorem Request.destination_extends (request : Request) (written : Url) :
    Extends (request.destination written) written request.query where
  origin := destination_origin? request written
  path := destination_path request written
  query := by
    rw [destination_query]
    by_cases hnone : request.query.isEmpty = true
    · rw [if_pos hnone, List.isEmpty_iff.mp hnone, List.append_nil]
    · rw [if_neg hnone, Option.getD_some, String.toList_ofList, Form.pairs_append]
  unchanged hnone := by
    rw [destination_query, hnone]
    rfl
  fragment := destination_fragment request written

theorem Request.destination_scheme (request : Request) (written : Url) :
    (request.destination written).scheme = written.scheme := by
  unfold destination addQuery
  cases (urlCredentials? written).isSome <;> cases request.query.isEmpty <;> rfl

end BulkJobs.Http

namespace BulkJobs.Org

open Url (IsWebScheme StartsBehind)

theorem parts_of_origin? {url : Url} {origin : Origin} (horigin : url.origin? = some origin) :
    url.scheme = origin.scheme ∧ ∃ authority, url.authority = some authority ∧
      authority.host = origin.host := by
  unfold Url.origin? at horigin
  split at horigin
  case h_1 authority defaultPort hauthority hport =>
    cases horigin
    exact ⟨rfl, authority, hauthority, rfl⟩
  case h_2 => cases horigin

theorem exists_jobsUrl (org : Org) (path : String) : ∃ after : String,
    after.toList.head? = some '/' ∧ org.jobsUrl path = org.instanceUrl ++ after := by
  refine ⟨"/services/data/v" ++ (org.apiVersion ++ "/jobs/" ++ Text.trimStartChars ['/'] path),
    ?_, ?_⟩
  · rw [String.toList_append]
    rfl
  · simp only [jobsUrl, String.append_assoc]

namespace IsPlain

variable {org : Org} {scheme place : String}

/-- A plain instance URL has a host, and text behind it, from a slash on, is path, query and
fragment. -/
theorem parse_slash (hplain : org.IsPlain scheme place) : ∃ authority,
    authority.host.isEmpty = false ∧
      Url.parse org.instanceUrl = .ok (Url.assemble scheme (some authority) []) ∧
      ∀ after : String, after.toList.head? = some '/' → ∃ behind, behind.Sublist after.toList ∧
        Url.parse (org.instanceUrl ++ after) =
          .ok (Url.assemble scheme (some authority) behind) := by
  obtain ⟨authority, hread⟩ := hplain.readLocation
  have hhome := hread [] StartsBehind.nil
  refine ⟨authority, ?_, ?_, fun after hafter ↦ ?_⟩
  · obtain ⟨same, c, front, hsame, -, hauthority⟩ :=
      Url.exists_of_readLocation hplain.web hhome
    cases hsame
    exact Url.isEmpty_of_readAuthority hplain.web.isSpecial hauthority
  · refine Url.parse_eq_ok_iff.mpr ⟨scheme, _, some authority, [], ?_, hhome, rfl⟩
    rw [Url.clean_eq_self hplain.visible_instanceUrl, hplain.toList_instanceUrl,
      scheme?_web hplain.web, List.append_nil]
  · obtain ⟨path, hpath⟩ := List.head?_eq_some_iff.mp hafter
    obtain ⟨rest, hrest, hclean⟩ :=
      Url.clean_visible_append_cons hplain.visible_instanceUrl (by decide : 0x20 < '/'.toNat) path
    refine ⟨'/' :: rest, by rw [hpath]; exact hrest.cons_cons '/', Url.parse_eq_ok_iff.mpr ?_⟩
    have htext : Url.clean (org.instanceUrl ++ after).toList =
        scheme.toList ++ ':' :: ('/' :: '/' :: place.toList ++ '/' :: rest) := by
      rw [String.toList_append, hpath, hclean, hplain.toList_instanceUrl, List.append_assoc]
      rfl
    exact ⟨scheme, _, some authority, '/' :: rest, by rw [htext, scheme?_web hplain.web],
      hread _ (StartsBehind.cons (by decide) rest), rfl⟩

/-- A URL that is put together with a plain instance URL is asked for as it stands, also if the text
behind it holds blanks. -/
theorem url_slash (hplain : org.IsPlain scheme place) {after : String}
    (hafter : after.toList.head? = some '/') :
    org.url (org.instanceUrl ++ after) = org.instanceUrl ++ after := by
  obtain ⟨authority, -, hhome, hparse⟩ := hplain.parse_slash
  obtain ⟨behind, -, hread⟩ := hparse after hafter
  have hlooks : looksAbsolute (org.instanceUrl ++ after) = true := by
    rw [looksAbsolute, String.toList_append, hplain.toList_instanceUrl]
    rcases hplain.web with rfl | rfl <;> simp
  have horigin : org.isOrigin (Url.assemble scheme (some authority) behind) = true := by
    rw [isOrigin, hhome]
    rcases hplain.web with rfl | rfl <;> simp [Url.assemble, Url.origin?, Url.defaultPort?]
  rw [Org.url, if_pos hlooks, hread]
  simp only [horigin, if_true]

/-- The URL of jobs is a URL of the instance, so it is asked for as it is built. -/
theorem url_jobsUrl (hplain : org.IsPlain scheme place) (path : String) :
    org.url (org.jobsUrl path) = org.jobsUrl path := by
  obtain ⟨after, hafter, hjobs⟩ := org.exists_jobsUrl path
  rw [hjobs, hplain.url_slash hafter]

/-- The URL of a path is a URL of the instance, so asking for its URL once more changes nothing. -/
theorem url_url (hplain : org.IsPlain scheme place) (path : String) :
    org.url (org.url path) = org.url path := by
  obtain ⟨authority, -, hhome, -⟩ := hplain.parse_slash
  rcases url_cases ⟨hhome, hplain.web⟩ path with ⟨hself, -⟩ | ⟨after, hafter, hurl⟩
  · rw [hself, hself]
  · rw [hurl, hplain.url_slash hafter]

/-- At a plain instance (`hplain`) the URL of any path can be read as a URL of the web with a
host. -/
theorem exists_written (hplain : org.IsPlain scheme place) (path : String) : ∃ written,
    Url.parse (org.url path) = .ok written ∧ written.host?.isSome ∧
      IsWebScheme written.scheme := by
  obtain ⟨authority, hhost, hhome, hparse⟩ := hplain.parse_slash
  have hweb := hplain.web
  rcases url_cases ⟨hhome, hweb⟩ path with ⟨hself, url, hurl, horigin⟩ | ⟨after, hafter, hurl⟩
  · have hsome : (Url.assemble scheme (some authority) []).origin? =
        some ⟨scheme, authority.host, authority.port.getD ((Url.defaultPort? scheme).getD 0)⟩ := by
      rcases hweb with rfl | rfl <;> rfl
    rw [hsome] at horigin
    obtain ⟨rfl, hsame⟩ := parts_of_origin? horigin
    obtain ⟨asked, hasked, hplace⟩ := hsame
    refine ⟨url, by rw [hself, hurl], ?_, hweb⟩
    simp [Url.host?, hasked, hplace, hhost]
  · obtain ⟨behind, -, hread⟩ := hparse after hafter
    refine ⟨_, by rw [hurl, hread], ?_, hweb⟩
    simp [Url.host?, Url.assemble, hhost]

/-- Text without a question mark (`hmark`) behind a plain instance URL has no query. -/
theorem query_of_slash (hplain : org.IsPlain scheme place) {after : String}
    (hafter : after.toList.head? = some '/') (hmark : '?' ∉ after.toList) {written : Url}
    (hwritten : Url.parse (org.url (org.instanceUrl ++ after)) = .ok written) :
    written.query = none := by
  obtain ⟨authority, -, -, hparse⟩ := hplain.parse_slash
  obtain ⟨behind, hbehind, hread⟩ := hparse after hafter
  rw [hplain.url_slash hafter, hread] at hwritten
  cases hwritten
  have hnone : (behind.takeWhile (· != '#')).dropWhile (· != '?') = [] := by
    refine List.dropWhile_eq_nil_iff.mpr fun c hc ↦ bne_iff_ne.mpr ?_
    rintro rfl
    exact hmark (hbehind.subset ((List.takeWhile_sublist _).subset hc))
  simp only [Url.assemble, Url.splitQuery, hnone, Option.map_none]

/-- At a plain instance a request for a path (`hurl`), with fit headers (`hown`), becomes a message
when a request line can carry its URL, and fails for that URL otherwise. -/
theorem prepare_eq (hplain : org.IsPlain scheme place) {request : Http.Request} {path : String}
    (hurl : request.url = org.url path)
    (hown : ∀ credentials, (request.ownHeaders? credentials).isSome) (config : Http.Config) :
    ∃ written own, Url.parse (org.url path) = .ok written ∧
      request.prepare config =
        if Http.Request.isCarriable (request.destination written) = true then
          .ok (request.messageTo config written own)
        else .error (Http.unbuildableFor (request.destination written)) := by
  obtain ⟨written, hwritten, hhost, hweb⟩ := hplain.exists_written path
  obtain ⟨own, hheaders⟩ :=
    Option.isSome_iff_exists.mp (hown (Http.Request.urlCredentials? written))
  refine ⟨written, own, hwritten, ?_⟩
  rw [← Http.Request.destination_scheme request] at hweb
  by_cases hfits : Http.Request.isCarriable (request.destination written) = true
  · rw [if_pos hfits]
    rw [← hurl] at hwritten
    exact Http.Request.prepare_eq_ok_iff.mpr
      ⟨written, own, hwritten, hhost, hheaders, hweb, hfits, rfl⟩
  · rw [if_neg hfits]
    have hnone : written.host?.isNone = false := by simpa using hhost
    have hunfit : ((request.destination written).scheme != "http" &&
        (request.destination written).scheme != "https" ||
          !Http.Request.isCarriable (request.destination written)) = true := by
      simp [hfits]
    unfold Http.Request.prepare
    simp only [hurl, hwritten, hnone, hheaders, Bool.false_eq_true, if_false]
    exact if_pos hunfit

end IsPlain

end BulkJobs.Org
