import BulkJobs.Proofs.Client.Listing
import BulkJobs.Proofs.Client.Serving
import Mathlib.Data.List.Duplicate

/-!
# Listings that come back

A listing does not go on to a page at the URL that it is at. That keeps it from a page that names
itself, but not from one that names an earlier page; and the first page is known by the URL of its
family without the parameter that it is asked for with, so that it may name itself
(`first_page_comes_back`). A listing asks for a URL again exactly when a page names one
that was asked for before (`ComesBack`, `Client.not_nodup_targets_iff`), and on a server that names
finitely many pages it ends exactly when it is led to no place twice. `listing_repeats_iff` puts
both together.
-/

set_option autoImplicit false
set_option relaxedAutoImplicit false

namespace BulkJobs

open Http (Message Reply Traffic)
open JobSnapshot (kind)

/-- The text of the URL that a request for a place is sent to, with the parameters that are added to
it, if there is such a URL. -/
def ListingPlace.target? (client : Client) (family : JobKind) (place : ListingPlace) :
    Option String :=
  (Url.parse (place.url client family)).toOption.map fun written ↦
    ((place.request client family).destination written).withoutFragment.write

/-- Whether a listing asks again for a URL that it has asked for: a page that is not the last one
names a next one, other than by the URL that it is known by, and the request for that one, if it is
sent, goes to the target of an earlier message. -/
def ComesBack (client : Client) (family : JobKind)
    (acts : List (PageAct ListingPlace (JobPage Json))) : Prop :=
  ∃ before namer later after page next message, acts = before ++ namer :: later :: after ∧
    namer.page = .ok page ∧ page.done = false ∧ page.next = some next ∧
    client.org.url next ≠ namer.place.url client family ∧ later.message?.isSome ∧
    message ∈ (before ++ [namer]).filterMap (·.message?) ∧
    (ListingPlace.page (client.org.url next)).target? client family = some message.target

/-- Of the values of a list one comes twice when it is found again behind a part of the list that
has it. -/
theorem not_nodup_filterMap_iff {α β : Type} {f : α → Option β} {items : List α} :
    ¬(items.filterMap f).Nodup ↔ ∃ before item after value, items = before ++ item :: after ∧
      f item = some value ∧ value ∈ before.filterMap f := by
  constructor
  · intro hagain
    obtain ⟨value, htwice⟩ := List.exists_duplicate_iff_not_nodup.mpr hagain
    obtain ⟨values, values', hvalues, hfirst, hsecond⟩ :=
      List.cons_sublist_iff.mp (List.duplicate_iff_sublist.mp htwice)
    obtain ⟨before, after, rfl, rfl, rfl⟩ := List.filterMap_eq_append_iff.mp hvalues
    obtain ⟨item, hitem, hvalue⟩ := List.mem_filterMap.mp (List.singleton_sublist.mp hsecond)
    obtain ⟨between, rest, rfl⟩ := List.append_of_mem hitem
    refine ⟨before ++ between, item, rest, value, by simp, hvalue, ?_⟩
    rw [List.filterMap_append]
    exact List.mem_append_left _ hfirst
  · rintro ⟨before, item, after, value, rfl, hvalue, hbefore⟩ hnodup
    rw [List.filterMap_append, List.filterMap_cons_some hvalue, List.nodup_append] at hnodup
    exact hnodup.2.2 value hbefore value List.mem_cons_self rfl

namespace Client

variable {client : Client} {family : JobKind} {traffic traffic' : Traffic} {scheme host : String}

theorem target?_of_message? (hplain : client.org.IsPlain scheme host)
    {acts : List (PageAct ListingPlace (JobPage Json))}
    (hchain : (client.listing family).Chain .first acts)
    {act : PageAct ListingPlace (JobPage Json)} (hact : act ∈ acts) {message : Message}
    (hmessage : act.message? = some message) :
    act.place.target? client family = some message.target := by
  obtain ⟨-, delivery, hdelivery, rfl⟩ := (hchain.fits act hact).exists_of_message? hmessage
  obtain ⟨hprepare, -⟩ := (hchain.fits act hact).of_delivery hdelivery
  obtain ⟨written, own, hwritten, -, -, -, -, hsame⟩ :=
    Http.Request.prepare_eq_ok_iff.mp hprepare
  change Url.parse (act.place.request client family).url = .ok written at hwritten
  rw [request_url, url_place hplain hchain hact] at hwritten
  rw [ListingPlace.target?, hwritten, hsame]
  rfl

/-- The messages of a listing at a plain instance (`hplain`) go to a URL again exactly when a page
names one that was asked for before (`ComesBack`). -/
theorem not_nodup_targets_iff (hplain : client.org.IsPlain scheme host)
    {acts : List (PageAct ListingPlace (JobPage Json))}
    (hchain : (client.listing family).Chain .first acts) :
    ¬((acts.filterMap (·.message?)).map (·.target)).Nodup ↔ ComesBack client family acts := by
  rw [List.map_filterMap, not_nodup_filterMap_iff]
  constructor
  · rintro ⟨front, later, after, target, rfl, hlater, hagain⟩
    obtain ⟨message, hmessage, rfl⟩ := Option.map_eq_some_iff.mp hlater
    obtain rfl | ⟨before, namer, rfl⟩ := List.eq_nil_or_concat' front
    · cases hagain
    rw [List.append_assoc, List.singleton_append] at hchain
    have hplace : some later.place = namer.next? (client.listing family) := hchain.follows rfl
    obtain ⟨page, next, hpage, hdone, hnamed, hother, hpage'⟩ := next?_listing_iff.mp hplace.symm
    have hown := target?_of_message? hplain hchain (by simp) hmessage
    rw [hpage'] at hown
    obtain ⟨earlier, hearlier, hsame⟩ := List.mem_filterMap.mp hagain
    obtain ⟨first, hfirst, hfirst'⟩ := Option.map_eq_some_iff.mp hsame
    refine ⟨before, namer, later, after, page, next, first, by simp, hpage, hdone, hnamed, hother,
      by rw [hmessage]; rfl, List.mem_filterMap.mpr ⟨earlier, hearlier, hfirst⟩, ?_⟩
    rw [hown, hfirst']
  · rintro ⟨before, namer, later, after, page, next, first, rfl, hpage, hdone, hnamed, hother,
      hsent, hfirst, htarget⟩
    obtain ⟨message, hmessage⟩ := Option.isSome_iff_exists.mp hsent
    have hplace : some later.place = namer.next? (client.listing family) := hchain.follows rfl
    have hleads : namer.next? (client.listing family) = some (.page (client.org.url next)) :=
      next?_listing_iff.mpr ⟨page, next, hpage, hdone, hnamed, hother, rfl⟩
    have hown := target?_of_message? hplain hchain (by simp) hmessage
    rw [Option.some.inj (hplace.trans hleads), htarget] at hown
    obtain ⟨earlier, hearlier, hsame⟩ := List.mem_filterMap.mp hfirst
    refine ⟨before ++ [namer], later, after, message.target, by simp,
      Option.map_eq_some_iff.mpr ⟨message, hmessage, rfl⟩, List.mem_filterMap.mpr ⟨earlier,
        hearlier, Option.map_eq_some_iff.mpr ⟨first, hsame, Option.some.inj hown⟩⟩⟩

/-- A server whose pages name finitely many pages (`htexts`) leads from any place to one of finitely
many places. -/
theorem after?_listing_mem {serve : ListingPlace → Reply} {texts : Finset String}
    (htexts : ∀ place page next,
      Json.decodeText pageDecoder (serve place).carriedBody = .ok page →
        page.next = some next → next ∈ texts) {before after : ListingPlace}
    (hafter : (client.listing family).after? serve before = some after) :
    after ∈ texts.image fun text ↦ ListingPlace.page (client.org.url text) := by
  obtain ⟨page, hpage, hnext⟩ := Paging.exists_of_after? hafter
  obtain ⟨message, response, -, hanswer, hread⟩ := Paging.exists_of_pageAt hpage
  obtain ⟨-, -, hdecode⟩ := holds_of_read hanswer hread
  obtain ⟨url, hurl, rfl⟩ := Option.map_eq_some_iff.mp hnext
  obtain ⟨next, -, hnamed, -, rfl⟩ := nextUrl?_eq_some_iff.mp hurl
  exact Finset.mem_image_of_mem _ (htexts before page next hdecode hnamed)

/-- On the replies of a server that answers by the place alone (`hdirect`), a listing sends one
message for each place that the server leads to, as long as there are replies. -/
theorem sent_listJobs (α : Type) [JobSnapshot α] (client : Client) {serve : ListingPlace → Reply}
    (hdirect : ∀ place, (serve place).IsDirect) (n : Nat) :
    (listJobs α client
        { replies := (client.listing (kind α)).script serve n .first }).2.sent =
      ((client.listing (kind α)).visits serve (n + 1) .first).filterMap
        (client.listing (kind α)).message? := by
  obtain ⟨acts, htrail, -⟩ :=
    listJobs_trail α client { replies := (client.listing (kind α)).script serve n .first }
  exact htrail.sent_eq_visits hdirect

end Client

/-- A listing sends a message to a URL again exactly when a page names this URL as the next one,
other than as the one that the page itself is known by (`ComesBack`). Where no reply leads anywhere
else, the messages of its requests are all that is sent. On a server that answers each request by
the place alone (`Http.Reply.IsDirect`) and names finitely many pages, the listing sends a bounded
number of messages exactly when the server leads it to no place twice. -/
theorem listing_repeats_iff (α : Type) [JobSnapshot α] {client : Client} {scheme host : String}
    (hplain : client.org.IsPlain scheme host)
    (htoken : Http.Header.isValue client.org.accessToken = true) :
    (∀ traffic, ∃ acts, IsListing client (kind α) acts ∧
      (Client.listJobs α client traffic).2.sent = traffic.sent ++ acts.flatMap (·.messages) ∧
      ((∀ reply ∈ traffic.replies, reply.isFinal = true) →
        (Client.listJobs α client traffic).2.sent = traffic.sent ++ acts.filterMap (·.message?)) ∧
      (¬((acts.filterMap (·.message?)).map (·.target)).Nodup ↔ ComesBack client (kind α) acts)) ∧
    ∀ (serve : ListingPlace → Reply) (texts : Finset String),
      (∀ place, (serve place).IsDirect) →
      (∀ place page next,
        Json.decodeText Client.pageDecoder (serve place).carriedBody = .ok page →
          page.next = some next → next ∈ texts) →
      ((∃ most, ∀ n, (Client.listJobs α client
          { replies := (client.listing (kind α)).script serve n .first }).2.sent.length ≤ most) ↔
        ∀ n, ((client.listing (kind α)).visits serve n .first).Nodup) := by
  refine ⟨fun traffic ↦ ?_, fun serve texts hdirect htexts ↦ ?_⟩
  · obtain ⟨acts, htrail, -⟩ := Client.listJobs_trail α client traffic
    exact ⟨acts, Client.isListing hplain htoken htrail.chain, htrail.sent_eq,
      htrail.sent_of_final, Client.not_nodup_targets_iff hplain htrail.chain⟩
  · simp only [Client.sent_listJobs α client hdirect]
    exact Paging.bounded_iff _ serve .first fun before after hafter ↦
      Client.after?_listing_mem htexts hafter

def firstPagePath : String :=
  "/services/data/v62.0/jobs/ingest?jobType=V2Ingest"

/-- A first page that names itself as the next one is read twice, and so are its jobs. -/
theorem first_page_comes_back :
    (Client.listJobs IngestJob { org := Org.sample }
      { replies := [pageReply firstPagePath, pageReply firstPagePath] }).2.sent.map (·.target) =
        ["http://[::1]" ++ firstPagePath, "http://[::1]" ++ firstPagePath] ∧
    (Client.listJobs IngestJob { org := Org.sample }
      { replies := [pageReply firstPagePath, pageReply firstPagePath] }).1.toOption.map
        (·.map (·.id)) = some ["1", "1"] := by
  decide +kernel

/-- At the sample org, a server where each page names the same next one. -/
theorem listing_repeats_iff_sample : Org.sample.IsPlain "http" "[::1]" ∧
    Http.Header.isValue Org.sample.accessToken = true ∧ (pageReply "/a").IsDirect ∧
    (∀ page next, Json.decodeText Client.pageDecoder (pageReply "/a").carriedBody = .ok page →
      page.next = some next → next ∈ ({"/a"} : Finset String)) ∧
    ((∃ most, ∀ n, (Client.listJobs IngestJob { org := Org.sample }
        { replies := (Client.listing { org := Org.sample } .ingest).script
            (fun _ ↦ pageReply "/a") n .first }).2.sent.length ≤ most) ↔
      ∀ n, ((Client.listing { org := Org.sample } .ingest).visits
        (fun _ ↦ pageReply "/a") n .first).Nodup) := by
  have hplain : ({ org := Org.sample } : Client).org.IsPlain "http" "[::1]" := Org.sample_isPlain
  have htoken : Http.Header.isValue Org.sample.accessToken = true := by decide
  have htexts : ∀ page next,
      Json.decodeText Client.pageDecoder (pageReply "/a").carriedBody = .ok page →
        page.next = some next → next ∈ ({"/a"} : Finset String) := by
    intro page next hpage hnext
    have hsome : (Json.decodeText Client.pageDecoder (pageReply "/a").carriedBody).toOption.bind
        (·.next) = some "/a" := by decide +kernel
    rw [hpage] at hsome
    exact Finset.mem_singleton.mpr (Option.some.inj (hnext.symm.trans hsome))
  obtain ⟨-, hends⟩ := listing_repeats_iff IngestJob hplain htoken
  have hdirect : (pageReply "/a").IsDirect := by decide +kernel
  exact ⟨Org.sample_isPlain, htoken, hdirect, htexts,
    hends (fun _ ↦ pageReply "/a") {"/a"} (fun _ ↦ hdirect) fun _ ↦ htexts⟩

end BulkJobs
