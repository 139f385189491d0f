import BulkJobs.Client.Jobs
import BulkJobs.Proofs.Client.Length
import BulkJobs.Proofs.Client.Paging

/-!
# Listings of jobs

A listing is a chain of pages (`Client.listing`) that begins at the URL of a family, with a
parameter that keeps it to the jobs of the family, and goes on at the URLs that the pages name. The
loop of `Client.listJobs` collects it (`Client.followPages_eq`). One message at a time, a listing is
shown just what such chains are (`Client.listSteps_shows_iff`), and without a break it is the same
listing (`Client.alone_listSteps`), so that it leaves a trail (`Client.listJobs_trail`). A page is
followed by the one that it names, unless it says that it is the last one or names the URL that it
was asked for at (`Client.next?_listing_iff`), and it is read from a reply of success that arrives
in full and holds one (`Client.page_listing_iff`).

At a plain instance the URL of a place is asked for as it stands (`Client.url_place`), and the
request is sent when hosts can be reached and a request line can carry the URL. `listJobs_account`
gives the whole account: the requests, the jobs among the records in their order, and the failure. A
request that cannot be built is the one that is missing from what a listing would ask for
(`unfit_listing_sends_nothing`).
-/

set_option autoImplicit false
set_option relaxedAutoImplicit false

namespace BulkJobs

open Http (Delivery Message Process Received Reply Response Traffic)
open JobSnapshot (kind)

/-- Where a page of a listing is: the first one, or one at a URL. -/
inductive ListingPlace where
  | first
  | page (url : String)
deriving DecidableEq

namespace ListingPlace

/-- The URL that a place is known by, with which the URL of a next page is compared. The parameter
that keeps the first page to a family does not belong to it. -/
def url (client : Client) (family : JobKind) : ListingPlace → String
  | first => client.kindUrl family
  | page url => url

/-- The parameters that are added to the URL of a place when its page is asked for. -/
def parameters (family : JobKind) : ListingPlace → List (String × String)
  | first => [("jobType", family.listFilter)]
  | page _ => []

def request (client : Client) (family : JobKind) : ListingPlace → Http.Request
  | first => client.listingRequest family
  | page url => client.org.request .get url

end ListingPlace

namespace Client

/-- The pages of a listing of a family: at a place is what the request for it is answered with,
and the next place is at the URL that the page names, unless it is the last page or names its own
place. -/
def listing (client : Client) (family : JobKind) : Paging ListingPlace (JobPage Json) where
  config := client.org.http
  request := ListingPlace.request client family
  read response := (response.readJson pageDecoder).mapError Failure.ofHttp
  next? place page := (client.nextUrl? (place.url client family) page).map .page

variable {client : Client} {family : JobKind} {traffic traffic' : Traffic}

/-! ### The loop -/

theorem fetch_listing (client : Client) (family : JobKind) (place : ListingPlace) :
    (client.listing family).fetch place =
      lift (Http.executeJson client.org.http pageDecoder (place.request client family)) := by
  funext traffic
  have hnext : ∀ response traffic',
      (Http.Exchange.ofExcept ((client.listing family).read response) : Session (JobPage Json))
        traffic' = ((client.listing family).read response, traffic') := fun _ _ ↦ rfl
  rw [lift_executeJson]
  exact lift_execute_bind hnext (place.request client family) traffic

theorem ask_listing (client : Client) (family : JobKind) (place : ListingPlace) :
    (client.listing family).ask place = client.askPage (place.request client family) := by
  have hread : ∀ answer : Except Http.Failure Response,
      (answer.mapError Failure.ofHttp).bind (client.listing family).read =
        (answer.bind (·.readJson pageDecoder)).mapError Failure.ofHttp := by
    intro answer
    cases answer <;> rfl
  unfold Paging.ask askPage
  simp only [hread]
  rfl

theorem next?_page (client : Client) (family : JobKind) (url : String) (page : JobPage Json) :
    (client.listing family).next? (.page url) page = (client.nextUrl? url page).map .page :=
  rfl

section

variable (α : Type) [JobSnapshot α]

/-- Following the pages of a listing from a page on is collecting them, whatever the way to fetch a
page is. -/
theorem followPages_eq {m : Type → Type} [Monad m] [LawfulMonad m] (client : Client)
    (family : JobKind) (fetch : ListingPlace → m (JobPage Json)) (fuel : Nat) (current : String)
    (page : JobPage Json) :
    followPages α client (fun url ↦ fetch (.page url)) fuel current page =
      (recognized α page ++ ·.flatMap (recognized α)) <$>
        match client.nextUrl? current page with
        | some next => (client.listing family).collect fetch fuel (.page next)
        | none => pure [] := by
  induction fuel generalizing current page with
  | zero =>
    rw [followPages]
    cases client.nextUrl? current page with
    | none => simp
    | some next => simp [Paging.collect]
  | succ fuel ih =>
    rw [followPages]
    cases client.nextUrl? current page with
    | none => simp
    | some next =>
      simp only [Paging.collect, map_bind, ih]
      refine bind_congr fun following ↦ ?_
      rw [next?_page]
      cases client.nextUrl? next following with
      | none => simp
      | some later => simp

/-- The first page and what follows it are what is recognized on the pages that are collected, with
one more to collect. -/
theorem bind_followPages_eq {m : Type → Type} [Monad m] [LawfulMonad m] (client : Client)
    (family : JobKind) (fetch : ListingPlace → m (JobPage Json)) (fuel : Nat) :
    (fetch .first >>= followPages α client (fun url ↦ fetch (.page url)) fuel
        (client.kindUrl family)) =
      (·.flatMap (recognized α)) <$>
        (client.listing family).collect fetch (fuel + 1) .first := by
  rw [Paging.collect, map_bind]
  refine bind_congr fun page ↦ ?_
  rw [followPages_eq α client family]
  have hnext : (client.listing family).next? .first page =
      (client.nextUrl? (client.kindUrl family) page).map .page := rfl
  rw [hnext]
  cases client.nextUrl? (client.kindUrl family) page with
  | none => simp
  | some next => simp

/-- A listing is what is recognized as jobs on the pages that are collected from the first one on,
and the number of replies that are to come bounds the pages. -/
theorem listJobs_apply (client : Client) (traffic : Traffic) :
    listJobs α client traffic =
      ((·.flatMap (recognized α)) <$> (client.listing (kind α)).collect
        (client.listing (kind α)).fetch (traffic.replies.length + 1) .first) traffic := by
  have hfirst : (client.listing (kind α)).fetch .first = lift (Http.executeJson client.org.http
      pageDecoder (client.listingRequest (kind α))) := fetch_listing client (kind α) .first
  have hlater : (fun url ↦ (client.listing (kind α)).fetch (.page url)) =
      fun url ↦ lift (client.org.getJson pageDecoder url) :=
    funext fun url ↦ fetch_listing client (kind α) (.page url)
  rw [← bind_followPages_eq, hfirst, hlater]
  exact Http.Exchange.bind_of_ok rfl

/-- One message at a time, a listing asks for the pages that it would fetch without a break. -/
theorem listSteps_eq (client : Client) (bound : Nat) : listSteps α client bound =
    (·.flatMap (recognized α)) <$> (client.listing (kind α)).collect
      (client.listing (kind α)).ask (bound + 1) .first := by
  rw [← bind_followPages_eq]
  simp only [ask_listing]
  rfl

/-- One message at a time, a listing is shown the messages and replies of a chain of pages, and
comes to what is recognized as jobs on these, when it may go on once for each reply that it takes
(`hbound`). -/
theorem listSteps_shows_iff {client : Client} {bound : Nat} {shown : List (Message × Reply)}
    {result : Except Failure (List α)} (hbound : shown.countP (·.2.IsTaken) ≤ bound) :
    (listSteps α client bound).run.Shows shown result ↔
      ∃ acts : List (PageAct ListingPlace (JobPage Json)),
        (client.listing (kind α)).Chain .first acts ∧ acts.flatMap (·.hops) = shown ∧
        result = Except.map (·.flatMap (recognized α)) (acts.mapM (·.page)) := by
  have hmore : shown.countP (·.2.IsTaken) ≤ bound + 1 := Nat.le_succ_of_le hbound
  rw [listSteps_eq, ExceptT.run_map]
  constructor
  · intro h
    obtain ⟨pages, hshows, rfl⟩ := Process.Shows.of_map h
    obtain ⟨acts, hchain, hshown, rfl⟩ := (Paging.collect_shows_iff hmore).mp hshows
    exact ⟨acts, hchain, hshown, rfl⟩
  · rintro ⟨acts, hchain, hshown, rfl⟩
    exact ((Paging.collect_shows_iff hmore).mpr ⟨acts, hchain, hshown, rfl⟩).map _

/-- A listing that sends one message at a time, but without a break (`Exchange.alone`), is the
listing that fetches its pages one after another. -/
theorem alone_listSteps (client : Client) (traffic : Traffic) :
    Http.Exchange.alone (listSteps α client traffic.replies.length) traffic =
      listJobs α client traffic := by
  rw [listJobs_apply, listSteps_eq, ← Paging.alone_collect, ← Http.Exchange.alone_map]

/-- A listing leaves a trail of pages, and its result is what is recognized as jobs on all of them,
or the failure of the page that failed. -/
theorem listJobs_trail (client : Client) (traffic : Traffic) :
    ∃ acts : List (PageAct ListingPlace (JobPage Json)),
    (client.listing (kind α)).Trail .first traffic acts (listJobs α client traffic).2 ∧
      (listJobs α client traffic).1 =
        Except.map (·.flatMap (recognized α)) (acts.mapM (·.page)) := by
  rw [← alone_listSteps]
  obtain ⟨shown, hshows, hpassed⟩ :=
    (listSteps α client traffic.replies.length).run.exists_shows traffic
  have htaken := hpassed.length_le
  obtain ⟨acts, hchain, rfl, hresult⟩ := (listSteps_shows_iff α (by omega)).mp hshows
  exact ⟨acts, ⟨hchain, hchain.received hpassed⟩, hresult⟩

end

/-! ### Requests and pages -/

theorem request_url (client : Client) (family : JobKind) (place : ListingPlace) :
    (place.request client family).url = client.org.url (place.url client family) := by
  have hrequest : ∀ path, (client.org.request .get path).url = client.org.url path := fun _ ↦ rfl
  cases place with
  | first => exact hrequest (client.kindUrl family)
  | page url => exact hrequest url

theorem request_query (client : Client) (family : JobKind) (place : ListingPlace) :
    (place.request client family).query = place.parameters family := by
  cases place <;> rfl

theorem isSome_ownHeaders_listing (htoken : Http.Header.isValue client.org.accessToken = true)
    (family : JobKind) (place : ListingPlace) (credentials : Option (String × String)) :
    ((place.request client family).ownHeaders? credentials).isSome := by
  cases place <;> exact Http.isSome_ownHeaders rfl htoken (by simp [ListingPlace.request,
    listingRequest, Org.request, Http.Request.authorized, Http.Request.withQuery]) credentials

/-- Another page follows a page when that one is not the last one and names a page that is not at
its own place. -/
theorem nextUrl?_eq_some_iff {current url : String} {page : JobPage Json} :
    client.nextUrl? current page = some url ↔ ∃ next, page.done = false ∧ page.next = some next ∧
      client.org.url next ≠ current ∧ url = client.org.url next := by
  unfold nextUrl?
  cases page.done with
  | true => simp
  | false =>
    cases page.next with
    | none => simp
    | some next =>
      simp only [Option.map_some, Bool.false_eq_true, if_false, Option.filter_eq_some_iff,
        Option.some.injEq, bne_iff_ne]
      constructor
      · rintro ⟨rfl, hother⟩
        exact ⟨next, trivial, rfl, hother, rfl⟩
      · rintro ⟨_, -, rfl, hother, rfl⟩
        exact ⟨rfl, hother⟩

theorem next?_listing_iff {act : PageAct ListingPlace (JobPage Json)} {place : ListingPlace} :
    act.next? (client.listing family) = some place ↔ ∃ page next, act.page = .ok page ∧
      page.done = false ∧ page.next = some next ∧
      client.org.url next ≠ act.place.url client family ∧
      place = .page (client.org.url next) := by
  constructor
  · intro hnext
    obtain ⟨page, hpage, hplace⟩ := PageAct.exists_of_next? hnext
    obtain ⟨url, hurl, rfl⟩ := Option.map_eq_some_iff.mp hplace
    obtain ⟨next, hdone, hnamed, hother, rfl⟩ := nextUrl?_eq_some_iff.mp hurl
    exact ⟨page, next, hpage, hdone, hnamed, hother, rfl⟩
  · rintro ⟨page, next, hpage, hdone, hnamed, hother, rfl⟩
    rw [PageAct.next?_of_ok hpage]
    exact Option.map_eq_some_iff.mpr
      ⟨_, nextUrl?_eq_some_iff.mpr ⟨next, hdone, hnamed, hother, rfl⟩, rfl⟩

/-- Where a chain of a listing comes to at a plain instance (`hplain`), the URL of the place is
asked for as it stands. -/
theorem url_place {scheme host : String} (hplain : client.org.IsPlain scheme host)
    {acts : List (PageAct ListingPlace (JobPage Json))}
    (hchain : (client.listing family).Chain .first acts)
    {act : PageAct ListingPlace (JobPage Json)} (hact : act ∈ acts) :
    client.org.url (act.place.url client family) = act.place.url client family := by
  rcases hchain.mem_place hact with hfirst | ⟨earlier, -, hnext⟩
  · rw [hfirst]
    exact hplain.url_jobsUrl family.path
  · obtain ⟨page, next, -, -, -, -, hplace⟩ := next?_listing_iff.mp hnext
    rw [hplace]
    exact hplain.url_url next

/-- A page is read (`hread`) from a reply of success that arrived in full, and it is what the body
of that reply holds. -/
theorem holds_of_read {delivery : Delivery} {response : Response} {page : JobPage Json}
    (hanswer : delivery.answer = .ok response)
    (hread : (client.listing family).read response = .ok page) :
    (200 ≤ delivery.reply.status ∧ delivery.reply.status ≤ 299) ∧ delivery.reply.fault = none ∧
      Json.decodeText pageDecoder delivery.reply.carriedBody = .ok page := by
  have hjson : response.readJson pageDecoder = .ok page := by
    change (response.readJson pageDecoder).mapError Failure.ofHttp = .ok page at hread
    cases hcases : response.readJson pageDecoder with
    | error failure =>
      rw [hcases] at hread
      cases hread
    | ok value =>
      rw [hcases] at hread
      cases hread
      rfl
  obtain ⟨hwhole, hdecode⟩ := Http.decode_of_readJson hjson
  obtain ⟨hstatus, hfault, rfl⟩ := Delivery.whole_of_answer hanswer hwhole
  exact ⟨hstatus, hfault, hdecode⟩

theorem page_listing_iff {act : PageAct ListingPlace (JobPage Json)}
    (hact : act.Fits (client.listing family)) {page : JobPage Json} :
    act.page = .ok page ↔ ∃ delivery, act.delivery = some delivery ∧
      (200 ≤ delivery.reply.status ∧ delivery.reply.status ≤ 299) ∧
      delivery.reply.fault = none ∧
      Json.decodeText pageDecoder delivery.reply.carriedBody = .ok page := by
  constructor
  · intro hpage
    obtain ⟨⟨delivery, response, hdelivery, hanswer, hread⟩, -⟩ := hact.exists_delivery hpage
    exact ⟨delivery, hdelivery, holds_of_read hanswer hread⟩
  · rintro ⟨delivery, hdelivery, hstatus, hfault, hdecode⟩
    obtain ⟨-, -, hpage⟩ := hact.of_delivery hdelivery
    have hjson : delivery.whole.readJson pageDecoder = .ok page :=
      Http.readJson_of_decode rfl hdecode
    rw [hpage, Delivery.answer_of_success hstatus hfault]
    change (delivery.whole.readJson pageDecoder).mapError Failure.ofHttp = .ok page
    rw [hjson]
    rfl

end Client

/-! ### The whole listing -/

/-- What a listing asks for on its way from page to page, and what it reads there: where it begins
and goes on, what it asks for at each place, and what a page or its failure comes from. -/
structure IsListing (client : Client) (family : JobKind)
    (acts : List (PageAct ListingPlace (JobPage Json))) : Prop where
  begins : acts.head?.map (·.place) = some .first
  /-- Behind a page comes the one that it names as the next, unless it says that it is the last one
  or names its own place. -/
  continues : ∀ before act after, acts = before ++ act :: after → ∀ place,
    after.head?.map (·.place) = some place ↔ ∃ page next, act.page = .ok page ∧
      page.done = false ∧ page.next = some next ∧
      client.org.url next ≠ act.place.url client family ∧ place = .page (client.org.url next)
  asked : ∀ act ∈ acts, ∃ target,
    act.IsAskedAt (act.place.url client family) (act.place.parameters family) target
  /-- A page is read exactly from a last reply of success that arrives in full and holds one. -/
  read : ∀ act ∈ acts, ∀ page, act.page = .ok page ↔ ∃ delivery, act.delivery = some delivery ∧
    (200 ≤ delivery.reply.status ∧ delivery.reply.status ≤ 299) ∧ delivery.reply.fault = none ∧
    Json.decodeText Client.pageDecoder delivery.reply.carriedBody = .ok page
  /-- A page whose request could be built fails as the answer or reading it does. -/
  answered : ∀ act ∈ acts, ∀ delivery, act.delivery = some delivery →
    act.page = (delivery.answer.mapError Failure.ofHttp).bind fun response ↦
      (response.readJson Client.pageDecoder).mapError Failure.ofHttp

namespace Client

variable {client : Client} {family : JobKind} {traffic traffic' : Traffic} {scheme host : String}

theorem isListing (hplain : client.org.IsPlain scheme host)
    (htoken : Http.Header.isValue client.org.accessToken = true)
    {acts : List (PageAct ListingPlace (JobPage Json))}
    (hchain : (client.listing family).Chain .first acts) : IsListing client family acts where
  begins := hchain.head?_place
  continues before act after hacts place := by
    rw [hchain.follows hacts]
    exact next?_listing_iff
  asked act hact := by
    obtain ⟨written, -, hasked⟩ := (hchain.fits act hact).isAskedAt hplain
      (by cases act.place <;> rfl : (act.place.request client family).method = .get)
      (request_url client family act.place) (url_place hplain hchain hact)
      (request_query client family act.place) (isSome_ownHeaders_listing htoken family act.place)
    exact ⟨_, hasked⟩
  read act hact page := page_listing_iff (hchain.fits act hact)
  answered act hact delivery hdelivery := ((hchain.fits act hact).of_delivery hdelivery).2.2

end Client

/-- A listing begins with the first page and goes on from page to page as they name one another. It
sends nothing else but what redirects lead to (`Received`), and it comes to the jobs among the
records of all pages, in order, or to the failure of the page that failed. -/
theorem listJobs_account (α : Type) [JobSnapshot α] {client : Client} {scheme host : String}
    (hplain : client.org.IsPlain scheme host)
    (htoken : Http.Header.isValue client.org.accessToken = true) (traffic : Traffic) :
    ∃ acts, IsListing client (kind α) acts ∧
      Received traffic (acts.filterMap (·.delivery)) (Client.listJobs α client traffic).2 ∧
      (Client.listJobs α client traffic).2.sent = traffic.sent ++ acts.flatMap (·.messages) ∧
      (∀ pages : List (JobPage Json), acts.map (·.page) = pages.map .ok →
        (Client.listJobs α client traffic).1 = .ok (pages.flatMap fun page ↦
          page.records.filterMap fun record ↦
            (Json.decodeValue JobSnapshot.decode record).toOption)) ∧
      ∀ act ∈ acts, ∀ failure, act.page = .error failure →
        (Client.listJobs α client traffic).1 = .error failure ∧
          ∃ before, acts = before ++ [act] := by
  obtain ⟨acts, htrail, hresult⟩ := Client.listJobs_trail α client traffic
  exact ⟨acts, Client.isListing hplain htoken htrail.chain, htrail.received, htrail.sent_eq,
    htrail.chain.result_eq hresult⟩

/-- With a long API version (`hlength`) the request for the first page cannot be built, as no
request line carries its URL. -/
theorem prepare_listing_of_length {version : String} (hversion : Url.IsPlainSegment version)
    (hlength : 65501 < version.toList.length) (family : JobKind) (config : Http.Config) :
    ∃ failure, (ListingPlace.first.request (.withVersion version) family).prepare config =
      .error failure :=
  prepare_kindUrl_of_length hversion hlength family
    (Client.request_url (.withVersion version) family .first) config

/-- At a host with a brace, and with a long API version, a listing sends nothing, although the
instance URL can be connected to. -/
theorem unfit_listing_sends_nothing :
    (Org.connect "http://\x7b" "t" {}).isOk = true ∧
      (Client.listJobs IngestJob { org := { Org.sample with instanceUrl := "http://\x7b" } }
        { replies := [{}] }).2.sent = [] ∧
      (Client.listJobs IngestJob (.withVersion (.ofList (List.replicate 65502 'a')))
        { replies := [{}] }).2.sent = [] := by
  refine ⟨by decide +kernel, by decide +kernel, ?_⟩
  obtain ⟨hversion, hlength⟩ := Org.isPlainSegment_replicate 65502
  generalize String.ofList (List.replicate 65502 'a') = version at hversion hlength ⊢
  obtain ⟨acts, htrail, -⟩ :=
    Client.listJobs_trail IngestJob (.withVersion version) { replies := [{}] }
  obtain ⟨failure, hprepare⟩ := prepare_listing_of_length hversion (by omega) .ingest {}
  exact htrail.sent_of_unfit hprepare

/-- The reply with a page that is not the last one, names a next one, and holds a job and a record
that is none. -/
def pageReply (next : String) : Http.Reply :=
  { body := Utf8.encode
      ("\x7b\"done\":false,\"records\":[\x7b\"id\":\"1\",\"state\":\"Open\"," ++
        "\"object\":\"Account\",\"operation\":\"insert\"\x7d,\x7b\x7d]," ++
        "\"nextRecordsUrl\":\"" ++ next ++ "\"\x7d") }

theorem listJobs_account_sample : Org.sample.IsPlain "http" "[::1]" ∧
    Http.Header.isValue Org.sample.accessToken = true ∧
    (∃ acts, IsListing { org := Org.sample } (kind IngestJob) acts ∧
      (Client.listJobs IngestJob { org := Org.sample }
        { replies := [pageReply "/a", pageReply "/a"] }).2.sent =
          acts.flatMap (·.messages)) ∧
    (Client.listJobs IngestJob { org := Org.sample }
      { replies := [pageReply "/a", pageReply "/a"] }).2.sent.map (·.target) =
        ["http://[::1]/services/data/v62.0/jobs/ingest?jobType=V2Ingest", "http://[::1]/a"] ∧
    (Client.listJobs IngestJob { org := Org.sample }
      { replies := [pageReply "/a", pageReply "/a"] }).1.toOption.map (·.map (·.id)) =
        some ["1", "1"] := by
  have hplain : ({ org := Org.sample } : Client).org.IsPlain "http" "[::1]" := Org.sample_isPlain
  have htoken : Http.Header.isValue Org.sample.accessToken = true := by decide
  obtain ⟨acts, hlisting, -, hsent, -⟩ := listJobs_account IngestJob hplain htoken
    { replies := [pageReply "/a", pageReply "/a"] }
  refine ⟨Org.sample_isPlain, htoken, ⟨acts, hlisting, hsent⟩, ?_⟩
  decide +kernel

end BulkJobs
