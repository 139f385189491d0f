import BulkJobs.Client.Query
import BulkJobs.Proofs.Client.Length
import BulkJobs.Proofs.Client.Paging
import BulkJobs.Proofs.Client.Sending

/-!
# Results in pages

The result of a query job is a chain of pages (`Client.resultPages`) at one URL: the first page is
asked for without a locator, and each reply names the locator of the next page in a header. The loop
of `Client.allQueryResults` collects the pages and joins their texts (`Client.followResults_eq`), so
that it leaves a trail (`Client.allQueryResults_trail`). A page is followed by the one at the
locator that its reply names, unless that reads as no text, is empty or `null`, or is the one that
was just used (`Client.next?_results_iff`).

At a plain instance a locator comes through its query as it is, whatever its characters are
(`Client.isAskedAt_page`), and it is the one parameter, unless the API version brings a question
mark into the URL (`locator_is_not_alone`). `allQueryResults_account` gives the whole account: the
requests, the text that is joined from the pages in their order, and the failure.
-/

set_option autoImplicit false
set_option relaxedAutoImplicit false

namespace BulkJobs

open Http (Delivery Message Received Reply Response Traffic)

namespace Client

/-- The pages of the result of a job as a chain; the first one is at no locator, and each other one
at the locator that the page before it names. -/
def resultPages (client : Client) (id : String) : Paging (Option String) ResultPage where
  config := client.org.http
  request locator := client.pageRequest id locator none
  read response := (response.readText.mapError Failure.ofHttp).map fun csv ↦
    { csv, locator := response.locator? }
  next? locator page := (nextLocator? locator page).map some

/-- The parameters that ask for the page at a locator: none for the first page. -/
def locatorParameters (locator : Option String) : List (String × String) :=
  locator.toList.map fun text ↦ ("locator", text)

variable {client : Client} {id : String} {traffic traffic' : Traffic}

/-! ### The loop -/

theorem fetch_resultPages (client : Client) (id : String) (locator : Option String) :
    (client.resultPages id).fetch locator = client.queryResults id locator none := by
  funext traffic
  have hfetch : ∀ response traffic',
      (Http.Exchange.ofExcept ((client.resultPages id).read response) : Session ResultPage)
        traffic' = ((client.resultPages id).read response, traffic') := fun _ _ ↦ rfl
  have hquery : ∀ (response : Response) (traffic' : Traffic),
      ((do
        let csv ← lift (Http.Exchange.ofExcept response.readText)
        return { csv, locator := response.locator? }) : Session ResultPage) traffic' =
          ((client.resultPages id).read response, traffic') := by
    intro response traffic'
    change _ = ((response.readText.mapError Failure.ofHttp).map _, traffic')
    cases response.readText <;> rfl
  exact (lift_execute_bind hfetch _ traffic).trans (lift_execute_bind hquery _ traffic).symm

/-- Following the pages of a result is collecting them and joining them to what was joined so far.
-/
theorem followResults_eq (client : Client) (id : String) (fuel : Nat) (locator : Option String)
    (joined : String) : followResults client id fuel locator joined =
      (fun pages ↦ (pages.map (·.csv)).foldl appendPage joined) <$>
        (client.resultPages id).collect (client.resultPages id).fetch fuel locator := by
  induction fuel generalizing locator joined with
  | zero => simp [followResults, Paging.collect, fetch_resultPages]
  | succ fuel ih =>
    simp only [followResults, Paging.collect, fetch_resultPages, map_bind, ih]
    refine bind_congr fun page ↦ ?_
    have hnext : (client.resultPages id).next? locator page =
        (nextLocator? locator page).map some := rfl
    rw [hnext]
    cases nextLocator? locator page with
    | none => simp
    | some next => simp

/-- The fetching of a whole result leaves a trail of pages, and comes to their texts, joined in
order, or to the failure of the page that failed. -/
theorem allQueryResults_trail (client : Client) (id : String) (traffic : Traffic) :
    ∃ acts : List (PageAct (Option String) ResultPage),
      (client.resultPages id).Trail none traffic acts (client.allQueryResults id traffic).2 ∧
      (client.allQueryResults id traffic).1 =
        Except.map (fun pages ↦ joinPages (pages.map (·.csv))) (acts.mapM (·.page)) := by
  have hrun : client.allQueryResults id traffic =
      ((fun pages : List ResultPage ↦ joinPages (pages.map (·.csv))) <$>
        (client.resultPages id).collect (client.resultPages id).fetch traffic.replies.length none)
          traffic := by
    change followResults client id traffic.replies.length none "" traffic = _
    rw [followResults_eq]
    rfl
  obtain ⟨acts, htrail, hpages⟩ := (client.resultPages id).collect_trail
    (le_refl traffic.replies.length)
  rw [hrun, Http.Exchange.map_apply]
  exact ⟨acts, htrail, by rw [hpages]⟩

/-! ### Requests and pages -/

/-- The URL of the result of a job is behind the instance URL, and has a question mark only where
the API version has one. -/
theorem exists_resultsUrl (client : Client) (id : String) : ∃ after : String,
    after.toList.head? = some '/' ∧
      client.resourceUrl .query id "results" = client.org.instanceUrl ++ after ∧
      ('?' ∉ client.org.apiVersion.toList → '?' ∉ after.toList) := by
  have hid : '?' ∉ (Percent.encodeSegment id).toList := by
    intro hmark
    exact absurd (Url.isPlainSegment_encodeSegment id '?' hmark) (by decide)
  have hpath : '?' ∉ (Text.trimStartChars ['/']
      (JobKind.query.path ++ "/" ++ Percent.encodeSegment id)).toList := by
    rw [Text.trimStartChars, String.toList_ofList]
    intro hmark
    have hmem := (List.dropWhile_sublist _).subset hmark
    rw [String.toList_append, List.mem_append] at hmem
    exact hmem.elim (by decide) hid
  refine ⟨"/services/data/v" ++ (client.org.apiVersion ++ "/jobs/" ++
    Text.trimStartChars ['/'] (JobKind.query.path ++ "/" ++ Percent.encodeSegment id) ++ "/" ++
      "results"), ?_, ?_, fun hversion ↦ ?_⟩
  · rw [String.toList_append]
    rfl
  · simp only [resourceUrl, jobUrl, Org.jobsUrl, String.append_assoc]
  · simp only [String.toList_append, List.mem_append, not_or]
    exact ⟨by decide, ⟨⟨⟨hversion, by decide⟩, hpath⟩, by decide⟩, by decide⟩

theorem url_results {scheme host : String} (hplain : client.org.IsPlain scheme host)
    (id : String) : client.org.url (client.resourceUrl .query id "results") =
      client.resourceUrl .query id "results" := by
  obtain ⟨after, hafter, hurl, -⟩ := client.exists_resultsUrl id
  rw [hurl, hplain.url_slash hafter]

theorem pageRequest_query (client : Client) (id : String) (locator : Option String) :
    (client.pageRequest id locator none).query = locatorParameters locator := by
  cases locator <;> rfl

theorem isSome_ownHeaders_page (htoken : Http.Header.isValue client.org.accessToken = true)
    (id : String) (locator : Option String) (credentials : Option (String × String)) :
    ((client.pageRequest id locator none).ownHeaders? credentials).isSome := by
  have haccept : (Http.Header.make? "Accept" "text/csv").isSome := by decide +kernel
  cases locator <;> exact Http.isSome_ownHeaders rfl htoken (by
    intro header hheader
    obtain rfl := List.mem_singleton.mp hheader
    exact haccept) credentials

/-- A page is the text of a reply of success that arrived in full, and what it says about the next
one. -/
theorem resultPage_of_read {delivery : Delivery} {response : Response} {page : ResultPage}
    (hanswer : delivery.answer = .ok response)
    (hread : (client.resultPages id).read response = .ok page) :
    (200 ≤ delivery.reply.status ∧ delivery.reply.status ≤ 299) ∧ delivery.reply.fault = none ∧
      page = ⟨Utf8.decodeLossy delivery.reply.carriedBody, delivery.whole.locator?⟩ := by
  change (response.readText.mapError Failure.ofHttp).map _ = .ok page at hread
  unfold Response.readText at hread
  cases hbytes : response.readBytes with
  | error failure =>
    rw [hbytes] at hread
    cases hread
  | ok bytes =>
    obtain ⟨hwhole, rfl⟩ := Http.of_readBytes hbytes
    obtain ⟨hstatus, hfault, rfl⟩ := Delivery.whole_of_answer hanswer hwhole
    rw [hbytes] at hread
    cases hread
    exact ⟨hstatus, hfault, rfl⟩

theorem page_results_iff {act : PageAct (Option String) ResultPage}
    (hact : act.Fits (client.resultPages id)) {page : ResultPage} :
    act.page = .ok page ↔ ∃ delivery, act.delivery = some delivery ∧
      (200 ≤ delivery.reply.status ∧ delivery.reply.status ≤ 299) ∧
      delivery.reply.fault = none ∧
      page = ⟨Utf8.decodeLossy delivery.reply.carriedBody, delivery.whole.locator?⟩ := by
  constructor
  · intro hpage
    obtain ⟨⟨delivery, response, hdelivery, hanswer, hread⟩, -⟩ := hact.exists_delivery hpage
    exact ⟨delivery, hdelivery, resultPage_of_read hanswer hread⟩
  · rintro ⟨delivery, hdelivery, hstatus, hfault, rfl⟩
    obtain ⟨-, -, hpage⟩ := hact.of_delivery hdelivery
    rw [hpage, Delivery.answer_of_success hstatus hfault]
    rfl

/-- A response names a locator when its header reads as text that is neither empty nor `null`, and
then it is that text. -/
theorem locator?_eq_some_iff {response : Response} {locator : String} :
    response.locator? = some locator ↔
      Http.Header.find? "sforce-locator" response.headers = some locator ∧ locator ≠ "" ∧
        locator ≠ "null" := by
  rw [Response.locator?, Response.header?, Option.filter_eq_some_iff]
  simp only [Bool.and_eq_true, bne_iff_ne]
  tauto

theorem nextLocator?_eq_some_iff {current : Option String} {page : ResultPage}
    {locator : String} : nextLocator? current page = some locator ↔
      page.locator = some locator ∧ current ≠ some locator := by
  rw [nextLocator?, Option.filter_eq_some_iff, bne_iff_ne]

/-- What follows a page is the page at the locator that its reply names, unless that is its own; no
page that failed is followed. -/
theorem next?_results_iff {act : PageAct (Option String) ResultPage}
    (hact : act.Fits (client.resultPages id)) {place : Option String} :
    act.next? (client.resultPages id) = some place ↔ ∃ delivery page locator,
      act.delivery = some delivery ∧ act.page = .ok page ∧
      Http.Header.find? "sforce-locator" delivery.reply.headers = some locator ∧
      locator ≠ "" ∧ locator ≠ "null" ∧ act.place ≠ some locator ∧ place = some locator := by
  constructor
  · intro hnext
    obtain ⟨page, hpage, hplace⟩ := PageAct.exists_of_next? hnext
    obtain ⟨locator, hlocator, rfl⟩ := Option.map_eq_some_iff.mp hplace
    obtain ⟨hnamed, hother⟩ := nextLocator?_eq_some_iff.mp hlocator
    obtain ⟨delivery, hdelivery, -, -, rfl⟩ := (page_results_iff hact).mp hpage
    obtain ⟨hheader, hsome, hnull⟩ := locator?_eq_some_iff.mp hnamed
    exact ⟨delivery, _, locator, hdelivery, hpage, hheader, hsome, hnull, hother, rfl⟩
  · rintro ⟨delivery, page, locator, hdelivery, hpage, hheader, hsome, hnull, hother, rfl⟩
    obtain ⟨same, hsame, -, -, rfl⟩ := (page_results_iff hact).mp hpage
    cases hdelivery.symm.trans hsame
    have hnamed : delivery.whole.locator? = some locator :=
      locator?_eq_some_iff.mpr ⟨hheader, hsome, hnull⟩
    rw [PageAct.next?_of_ok hpage]
    exact Option.map_eq_some_iff.mpr
      ⟨locator, nextLocator?_eq_some_iff.mpr ⟨hnamed, hother⟩, rfl⟩

end Client

/-! ### The whole result -/

/-- What the fetching of a result asks for on its way from page to page, and what it reads there. -/
structure IsResultRun (client : Client) (id : String)
    (acts : List (PageAct (Option String) ResultPage)) : Prop where
  begins : acts.head?.map (·.place) = some none
  /-- Behind a page comes the one at the locator that its reply names, unless there is none, or it
  reads as no text, is empty or `null`, or is the locator of the page itself. -/
  continues : ∀ before act after, acts = before ++ act :: after → ∀ place,
    after.head?.map (·.place) = some place ↔ ∃ delivery page locator,
      act.delivery = some delivery ∧ act.page = .ok page ∧
      Http.Header.find? "sforce-locator" delivery.reply.headers = some locator ∧
      locator ≠ "" ∧ locator ≠ "null" ∧ act.place ≠ some locator ∧ place = some locator
  asked : ∀ act ∈ acts, ∃ target, act.IsAskedAt (client.resourceUrl .query id "results")
    (Client.locatorParameters act.place) target
  alone : '?' ∉ client.org.apiVersion.toList → ∀ act ∈ acts, ∀ delivery,
    act.delivery = some delivery → Form.pairs (delivery.message.url.query.getD "").toList =
      Client.locatorParameters act.place
  /-- A page is read exactly from a last reply of success that arrives in full, as its text. -/
  read : ∀ act ∈ acts, ∀ page, act.page = .ok page ↔ ∃ delivery, act.delivery = some delivery ∧
    (200 ≤ delivery.reply.status ∧ delivery.reply.status ≤ 299) ∧ delivery.reply.fault = none ∧
    page = ⟨Utf8.decodeLossy delivery.reply.carriedBody, delivery.whole.locator?⟩
  /-- A page whose request could be built fails as the answer or reading it does. -/
  answered : ∀ act ∈ acts, ∀ delivery, act.delivery = some delivery →
    act.page = (delivery.answer.mapError Failure.ofHttp).bind fun response ↦
      (response.readText.mapError Failure.ofHttp).map fun csv ↦
        { csv, locator := response.locator? }

namespace Client

variable {client : Client} {id : String} {traffic traffic' : Traffic} {scheme host : String}

theorem isAskedAt_page (hplain : client.org.IsPlain scheme host)
    (htoken : Http.Header.isValue client.org.accessToken = true)
    {act : PageAct (Option String) ResultPage} (hact : act.Fits (client.resultPages id)) :
    ∃ target, act.IsAskedAt (client.resourceUrl .query id "results")
      (locatorParameters act.place) target := by
  obtain ⟨written, -, hasked⟩ := hact.isAskedAt hplain
    (by cases act.place <;> rfl : (client.pageRequest id act.place none).method = .get)
    (pageRequest_url client id act.place none) (url_results hplain id)
    (pageRequest_query client id act.place)
    (isSome_ownHeaders_page htoken id act.place)
  exact ⟨_, hasked⟩

theorem isResultRun (hplain : client.org.IsPlain scheme host)
    (htoken : Http.Header.isValue client.org.accessToken = true)
    {acts : List (PageAct (Option String) ResultPage)}
    (hchain : (client.resultPages id).Chain none acts) : IsResultRun client id acts where
  begins := hchain.head?_place
  continues before act after hacts place := by
    have hact : act.Fits (client.resultPages id) := hchain.fits act (by rw [hacts]; simp)
    rw [hchain.follows hacts]
    exact next?_results_iff hact
  asked act hact := isAskedAt_page hplain htoken (hchain.fits act hact)
  alone hversion act hact delivery hdelivery := by
    obtain ⟨target, hasked⟩ := isAskedAt_page hplain htoken (hchain.fits act hact)
    obtain ⟨written, hwritten, hleads⟩ := hasked.leads
    obtain ⟨behind, hslash, hurl, hmark⟩ := client.exists_resultsUrl id
    rw [← url_results hplain id, hurl] at hwritten
    have hnone := hplain.query_of_slash hslash (hmark hversion) hwritten
    rw [(hasked.message delivery hdelivery).2, hleads.query, hnone]
    rfl
  read act hact page := page_results_iff (hchain.fits act hact)
  answered act hact delivery hdelivery := ((hchain.fits act hact).of_delivery hdelivery).2.2

end Client

/-- The fetching of a result begins with the first page and goes on from locator to locator. It
sends nothing else but what redirects lead to (`Received`), and it comes to the texts of all pages,
joined in order, or to the failure of the page that failed. -/
theorem allQueryResults_account {client : Client} {scheme host : String}
    (hplain : client.org.IsPlain scheme host)
    (htoken : Http.Header.isValue client.org.accessToken = true) (id : String)
    (traffic : Traffic) : ∃ acts, IsResultRun client id acts ∧
      Received traffic (acts.filterMap (·.delivery)) (client.allQueryResults id traffic).2 ∧
      (client.allQueryResults id traffic).2.sent = traffic.sent ++ acts.flatMap (·.messages) ∧
      (∀ pages : List ResultPage, acts.map (·.page) = pages.map .ok →
        (client.allQueryResults id traffic).1 =
          .ok ((pages.map (·.csv)).foldl appendPage "")) ∧
      ∀ act ∈ acts, ∀ failure, act.page = .error failure →
        (client.allQueryResults id traffic).1 = .error failure ∧
          ∃ before, acts = before ++ [act] := by
  obtain ⟨acts, htrail, hresult⟩ := client.allQueryResults_trail id traffic
  exact ⟨acts, Client.isResultRun hplain htoken htrail.chain, htrail.received, htrail.sent_eq,
    htrail.chain.result_eq hresult⟩

def locatorReply (locator : String) : Reply :=
  { headers := [.arrived "Sforce-Locator" locator] }

/-- With a long API version (`hlength`) the request for the first page cannot be built, as no
request line carries its URL. -/
theorem prepare_results_of_length {version : String} (hversion : Url.IsPlainSegment version)
    (hlength : 65501 < version.toList.length) (config : Http.Config) :
    ∃ failure, ((Client.withVersion version).pageRequest "1" none none).prepare config =
      .error failure := by
  have hpath : '/' :: (Text.trimStartChars ['/'] "query/1/results").toList =
      (UrlPath.segments ["query", "1", "results"]).write := by decide +kernel
  have hplain : ∀ part ∈ ["query", "1", "results"], Url.IsPlainSegment part := by
    decide +kernel
  have hkept : ∀ part ∈ ["query", "1", "results"],
      Url.isDoubleDot part = false ∧ Url.isSingleDot part = false := by
    decide +kernel
  have hurl : (Client.withVersion version).resourceUrl .query "1" "results" =
      (Client.withVersion version).org.jobsUrl "query/1/results" := by
    have hjob : JobKind.query.path ++ "/" ++ Percent.encodeSegment "1" = "query/1" := by
      decide +kernel
    have htrim : Text.trimStartChars ['/'] "query/1" ++ ("/" ++ "results") =
        Text.trimStartChars ['/'] "query/1/results" := by decide +kernel
    rw [Client.resourceUrl, Client.jobUrl, hjob, Org.jobsUrl, Org.jobsUrl, ← htrim]
    simp only [String.append_assoc]
  have hrequest := Client.pageRequest_url (Client.withVersion version) "1" none none
  rw [hurl] at hrequest
  have hinstance : (Client.withVersion version).org.instanceUrl = Org.sample.instanceUrl := rfl
  exact Org.prepare_jobs_of_too_long hinstance hversion hlength hpath hplain hkept hrequest config

/-- With a question mark in the API version the locator is not the one parameter; and at a host with
a brace, and with a long API version, nothing is sent. -/
theorem locator_is_not_alone :
    (Client.allQueryResults (.withVersion "62.0?a") "1"
      { replies := [locatorReply "X", {}] }).2.sent.map
        (fun message ↦ Form.pairs (message.url.query.getD "").toList) =
      [[("a/jobs/query/1/results", "")], [("a/jobs/query/1/results", ""), ("locator", "X")]] ∧
    (Client.allQueryResults { org := { Org.sample with instanceUrl := "http://\x7b" } } "1"
      { replies := [{}] }).2.sent = [] ∧
    (Client.allQueryResults (.withVersion (.ofList (List.replicate 65502 'a'))) "1"
      { replies := [{}] }).2.sent = [] := by
  refine ⟨by decide +kernel, by decide +kernel, ?_⟩
  obtain ⟨hversion, hlength⟩ := Org.isPlainSegment_replicate 65502
  generalize String.ofList (List.replicate 65502 'a') = version at hversion hlength ⊢
  obtain ⟨acts, htrail, -⟩ :=
    Client.allQueryResults_trail (.withVersion version) "1" { replies := [{}] }
  obtain ⟨failure, hprepare⟩ := prepare_results_of_length hversion (by omega) {}
  exact htrail.sent_of_unfit hprepare

/-- A result of two pages at the sample org, with a locator that is full of marks. -/
theorem allQueryResults_account_sample : Org.sample.IsPlain "http" "[::1]" ∧
    Http.Header.isValue Org.sample.accessToken = true ∧
    (∃ acts, IsResultRun { org := Org.sample } "1" acts ∧
      (Client.allQueryResults { org := Org.sample } "1"
        { replies := [locatorReply "a&b=+%20#c d", {}] }).2.sent =
          acts.flatMap (·.messages)) ∧
    (Client.allQueryResults { org := Org.sample } "1"
      { replies := [locatorReply "a&b=+%20#c d", {}] }).2.sent.map (·.target) =
        ["http://[::1]/services/data/v62.0/jobs/query/1/results",
          "http://[::1]/services/data/v62.0/jobs/query/1/results?locator=" ++
            "a%26b%3D%2B%2520%23c+d"] := by
  have hplain : ({ org := Org.sample } : Client).org.IsPlain "http" "[::1]" := Org.sample_isPlain
  have htoken : Http.Header.isValue Org.sample.accessToken = true := by decide
  obtain ⟨acts, hrun, -, hsent, -⟩ := allQueryResults_account hplain htoken "1"
    { replies := [locatorReply "a&b=+%20#c d", {}] }
  exact ⟨Org.sample_isPlain, htoken, ⟨acts, hrun, hsent⟩, by decide +kernel⟩

end BulkJobs
